import NemoClaw.Policy.PresetMerge

/- The npm preset, which changes an entry of the baseline policy while it is active.

Correspondence (policy/index.ts and policy/baseline-exclusion.ts ↔ Lean): definitions keep the
source's names. A policy object is the list of its properties; `policyObject` is
`isPolicyObject` with the properties. `npmPreset` is what `loadPresetForAgent` loads for
npm. `structuredClone` makes a value that is equal, so it is left out. A port is written out
as an integer below 10^21 is.

What is proved: an activation whose preset is active is its own activation, and removing the
preset and restoring gives the policy as it was before the activation, without the entries of
the preset and of providers. No other section shares the network policies, which are edited in
place.
-/
namespace NemoClaw.Policy

open Js Js.Json List

/-! ## The reviewed entries -/

/-- `isPolicyObject`, with the properties. -/
def policyObject : Option Json → Option (List (String × Json))
  | some (.obj fields) => some fields
  | _ => none

def parseNetworkPolicies (yaml : Yaml) (content : Option String) : Option (List (String × Json)) :=
  (content.filter fun text => text ≠ "").bind fun text =>
    (yaml.parse text).bind fun parsed => policyObject (parsed.get? "network_policies")

def getBaselineEntry (yaml : Yaml) (basePolicyContent key : String) :
    Option (List (String × Json)) :=
  (parseNetworkPolicies yaml (some basePolicyContent)).bind fun networkPolicies =>
    policyObject (networkPolicies.lookup key)

structure ReviewedEntries where
  baseline : List (String × Json)
  preset : List (String × Json)

def openClawNpmReviewedEntries (yaml : Yaml) (npmPreset : Option String)
    (baselinePolicyContent : String) : Except String ReviewedEntries :=
  match getBaselineEntry yaml baselinePolicyContent "npm_registry",
    (parseNetworkPolicies yaml npmPreset).bind fun policies =>
      policyObject (policies.lookup "npm_yarn") with
  | some baseline, some preset => .ok ⟨baseline, preset⟩
  | _, _ => .error "Cannot reconcile OpenClaw npm policy compatibility: reviewed inputs missing."

def endpointsOf (entry : List (String × Json)) : List Json :=
  match entry.lookup "endpoints" with
  | some (.arr endpoints) => endpoints.filter isObject
  | _ => []

/-- `candidate.host === host && candidate.port === port`. -/
def hasSelector (host : String) (port : ℚ) (candidate : Json) : Bool :=
  match candidate.get? "host", candidate.get? "port" with
  | some (.str host'), some (.num port') => host' = host && port' = port
  | _, _ => false

def compatibleEndpoints (presetEndpoints : List Json) :
    List String → List Json → Except String (List Json)
  | _, [] => .ok []
  | selectors, endpoint :: rest =>
    match endpoint.get? "host", endpoint.get? "port" with
    | some (.str host), some (.num port) => do
      require (host ≠ "" ∧ port.den = 1 ∧ 0 < port)
        "Cannot compose 'npm_yarn' with 'npm_registry': the reviewed baseline selector is invalid."
      let selector := host ++ ":" ++ toString port.num
      require (selector ∉ selectors)
        ("Cannot compose 'npm_yarn' with 'npm_registry': the reviewed baseline repeats selector '" ++
          selector ++ "'.")
      match presetEndpoints.filter (hasSelector host port) with
      | [found] => do
        let others ← compatibleEndpoints presetEndpoints (selector :: selectors) rest
        pure (found :: others)
      | _ => .error ("Cannot compose 'npm_yarn' with 'npm_registry': selector '" ++ selector ++
          "' must have exactly one preset match.")
    | _, _ => .error
        "Cannot compose 'npm_yarn' with 'npm_registry': the reviewed baseline selector is invalid."

def npmCompatibilityEntry (baselineEntry npmPresetEntry : List (String × Json)) :
    Except String (List (String × Json)) := do
  require (endpointsOf baselineEntry ≠ [])
    "Cannot compose 'npm_yarn' with 'npm_registry': the reviewed baseline has no endpoints."
  let endpoints ← compatibleEndpoints (endpointsOf npmPresetEntry) [] (endpointsOf baselineEntry)
  pure (setOwn baselineEntry "endpoints" (.arr endpoints))

structure OpenClawNpmActivation where
  policy : String
  widenedBaseline : Bool

def yamlParse (yaml : Yaml) (text : String) : Except String Json :=
  match yaml.parse text with
  | some value => .ok value
  | none => .error (yaml.failure text)

/-- A policy document, with its network policies. -/
def policyMapping (parsed : Json) (invalid : String) :
    Except String (List (String × Json) × List (String × Json)) :=
  match parsed with
  | .obj fields =>
    match presetPolicyMap (fields.lookup "network_policies") with
    | some networkPolicies => .ok (fields, networkPolicies)
    | none => .error invalid
  | _ => .error invalid

def activateOpenClawNpmCompatibility (yaml : Yaml) (npmPreset : Option String)
    (policyContent baselinePolicyContent : String) (npmWasActive : Bool) :
    Except String OpenClawNpmActivation := do
  let parsed ← yamlParse yaml policyContent
  let (fields, networkPolicies) ← policyMapping parsed
    "Cannot reconcile OpenClaw npm policy compatibility: invalid policy mapping."
  match networkPolicies.lookup "npm_registry" with
  | none => pure ⟨policyContent, false⟩
  | some currentBaselineEntry => do
    require (currentBaselineEntry.isObject)
      "Cannot compose 'npm_yarn': baseline entry is malformed."
    let reviewed ← openClawNpmReviewedEntries yaml npmPreset baselinePolicyContent
    let compatibilityEntry ← npmCompatibilityEntry reviewed.baseline reviewed.preset
    require (hasEntry networkPolicies ("npm_yarn", .obj reviewed.preset))
      "Cannot compose 'npm_yarn': the resulting entry differs from the reviewed npm preset."
    if isDeepStrictEqual currentBaselineEntry (.obj compatibilityEntry) then do
      require npmWasActive
        ("Cannot compose 'npm_yarn': found a compatibility overlay without an active npm " ++
          "preset.")
      pure ⟨policyContent, false⟩
    else do
      require (isDeepStrictEqual currentBaselineEntry (.obj reviewed.baseline))
        "Cannot compose 'npm_yarn': 'npm_registry' differs from the reviewed baseline."
      pure ⟨yaml.printEdited policyContent fields
        (setOwn networkPolicies "npm_registry" (.obj compatibilityEntry)), true⟩

def removePresetFromPolicy (yaml : Yaml) (currentPolicy presetEntries : String) :
    Except String String := do
  let normalized ← normalizedPolicy yaml currentPolicy
    ("Cannot remove policy preset: the current policy is not a valid YAML mapping. " ++
      "Re-read the base policy and try again; no policy changes were made.")
  if presetEntries = "" then
    pure (if normalized = "" then emptyPolicy else normalized)
  else
    let policies ← parsePresetEntries yaml presetEntries
      ("Cannot remove policy preset: preset network_policies entries must be a valid YAML " ++
        "mapping. Check the preset file and try again; no policy changes were made.")
    if policies = [] then pure normalized
    else if normalized = "" then pure emptyPolicy
    else
      let current ← parseCurrent yaml normalized
        ("Cannot remove policy preset: the normalized current policy could not be parsed. " ++
          "Re-read the base policy and try again; no policy changes were made.")
      match current.lookup "network_policies" with
      | some (.obj existing) =>
        pure (yaml.printEdited normalized current
          ((policies.map (·.1)).foldl deleteKey existing))
      | _ => pure normalized

def restoreOpenClawNpmCompatibility (yaml : Yaml) (npmPreset : Option String)
    (currentPolicy updatedPolicy baselinePolicyContent : String) : Except String String := do
  let parsed ← yamlParse yaml currentPolicy
  let parsedUpdated ← yamlParse yaml updatedPolicy
  let invalid := "Cannot restore OpenClaw npm policy compatibility: invalid policy mapping."
  let (_, networkPolicies) ← policyMapping parsed invalid
  let (updated, updatedPolicies) ← policyMapping parsedUpdated invalid
  match networkPolicies.lookup "npm_registry" with
  | none => pure updatedPolicy
  | some currentBaselineEntry => do
    require (currentBaselineEntry.isObject)
      "Cannot remove 'npm_yarn': baseline entry is malformed."
    let reviewed ← openClawNpmReviewedEntries yaml npmPreset baselinePolicyContent
    if isDeepStrictEqual currentBaselineEntry (.obj reviewed.baseline) then pure updatedPolicy
    else
      match policyObject (networkPolicies.lookup "npm_yarn") with
      | none => .error ("Cannot remove 'npm_yarn': found a compatibility overlay without an " ++
          "active npm preset.")
      | some currentNpmEntry => do
        let compatibilityEntry ← npmCompatibilityEntry reviewed.baseline currentNpmEntry
        require (isDeepStrictEqual currentBaselineEntry (.obj compatibilityEntry))
          ("Cannot remove 'npm_yarn': 'npm_registry' differs from both the reviewed baseline " ++
            "and active compatibility overlay.")
        pure (yaml.printEdited updatedPolicy updated
          (setOwn updatedPolicies "npm_registry" (.obj reviewed.baseline)))

section Entries

variable {host : String} {port : ℚ} {selectors : List String}
  {endpoints endpoints' found rest : List Json} {baseline preset preset' entry : List (String × Json)}

lemma hasSelector_iff {candidate : Json} : hasSelector host port candidate ↔
    candidate.get? "host" = some (.str host) ∧ candidate.get? "port" = some (.num port) := by
  unfold hasSelector
  split
  · next hhost hport => simp [hhost, hport]
  · next hother =>
    refine iff_of_false (by simp) fun h => ?_
    exact hother _ _ h.1 h.2

lemma hasSelector_same {candidate candidate' : Json} (h : Same candidate candidate') :
    hasSelector host port candidate ↔ hasSelector host port candidate' := by
  rw [hasSelector_iff, hasSelector_iff, (h.get "host").eq_str, (h.get "port").eq_num]

lemma endpointsOf_same (h : Same (.obj preset) (.obj preset')) :
    Forall₂ Same (endpointsOf preset) (endpointsOf preset') := by
  unfold endpointsOf
  rcases h.lookup "endpoints" with ⟨hnone, hnone'⟩ | ⟨value, value', hvalue, hvalue', hsame⟩
  · rw [hnone, hnone']; exact .nil
  rw [hvalue, hvalue']
  cases value with
  | arr xs =>
    obtain ⟨ys, rfl, -⟩ := deepEqual_arr.mp hsame.equal
    exact rel_filter (fun x y hxy => by simp only [hxy.isObject_eq]) hsame.elements
  | null => rw [← deepEqual_null.mp hsame.equal]; exact .nil
  | bool _ => rw [← deepEqual_bool.mp hsame.equal]; exact .nil
  | num _ => rw [← deepEqual_num.mp hsame.equal]; exact .nil
  | str _ => rw [← deepEqual_str.mp hsame.equal]; exact .nil
  | obj _ => obtain ⟨others, rfl⟩ := obj_of_deepEqual hsame.equal; exact .nil

lemma compatibleEndpoints_same (h : Forall₂ Same endpoints endpoints')
    (hfound : compatibleEndpoints endpoints selectors rest = .ok found) :
    ∃ found', compatibleEndpoints endpoints' selectors rest = .ok found' ∧
      Forall₂ Same found found' := by
  induction rest generalizing selectors found with
  | nil => cases hfound; exact ⟨[], rfl, .nil⟩
  | cons endpoint rest ih =>
    rw [compatibleEndpoints] at hfound ⊢
    split at hfound
    · next host port hhost hport =>
      obtain ⟨hvalid, hfound⟩ := require_bind_inv hfound
      obtain ⟨hfresh, hfound⟩ := require_bind_inv hfound
      have hmatches : Forall₂ Same (endpoints.filter (hasSelector host port))
          (endpoints'.filter (hasSelector host port)) :=
        rel_filter (fun _ _ hxy => hasSelector_same hxy) h
      split at hfound
      · next one hone =>
        obtain ⟨others, hothers, hfound⟩ := except_bind_inv hfound
        cases hfound
        obtain ⟨others', hothers', hsame⟩ := ih hothers
        rw [hone] at hmatches
        obtain ⟨one', last, hfirst, hlast, hone'⟩ := forall₂_cons_left_iff.mp hmatches
        obtain rfl := forall₂_nil_left_iff.mp hlast
        refine ⟨one' :: others', ?_, .cons hfirst hsame⟩
        refine require_bind_ok hvalid (require_bind_ok hfresh ?_)
        rw [hone']; exact except_bind_ok hothers' rfl
      · cases hfound
    · cases hfound

lemma npmCompatibilityEntry_same (hbaseline : Keyed (.obj baseline))
    (h : Same (.obj preset) (.obj preset'))
    (hentry : npmCompatibilityEntry baseline preset = .ok entry) :
    ∃ entry', npmCompatibilityEntry baseline preset' = .ok entry' ∧
      Same (.obj entry) (.obj entry') := by
  obtain ⟨hsome, hentry⟩ := require_bind_inv hentry
  obtain ⟨found, hfound, hentry⟩ := except_bind_inv hentry
  cases hentry
  obtain ⟨found', hfound', hsame⟩ := compatibleEndpoints_same (endpointsOf_same h) hfound
  refine ⟨_, require_bind_ok hsome (except_bind_ok hfound' rfl), ?_⟩
  exact (Same.refl hbaseline).setOwn "endpoints" (.arr hsame)

lemma keyed_npmCompatibilityEntry (hbaseline : Keyed (.obj baseline))
    (hpreset : Keyed (.obj preset)) (h : npmCompatibilityEntry baseline preset = .ok entry) :
    Keyed (.obj entry) := by
  obtain ⟨entry', -, hsame⟩ := npmCompatibilityEntry_same hbaseline (.refl hpreset) h
  exact hsame.keyed

end Entries

/-! ## The documents on the way -/

def setPolicyEntry (fields networkPolicies : List (String × Json)) (key : String)
    (entry : List (String × Json)) : List (String × Json) :=
  setOwn fields "network_policies" (.obj (setOwn networkPolicies key (.obj entry)))

/-- The policy while the preset is active. -/
def activatedPolicy (fields networkPolicies compatibilityEntry : List (String × Json))
    (widenedBaseline : Bool) : List (String × Json) :=
  if widenedBaseline then setPolicyEntry fields networkPolicies "npm_registry" compatibilityEntry
  else fields

def activatedPolicies (networkPolicies compatibilityEntry : List (String × Json))
    (widenedBaseline : Bool) : List (String × Json) :=
  if widenedBaseline then setOwn networkPolicies "npm_registry" (.obj compatibilityEntry)
  else networkPolicies

def remainingPolicies (networkPolicies : List (String × Json)) (keys : List String) :
    List (String × Json) :=
  keys.foldl deleteKey (withoutProviderComposedPolicies networkPolicies)

/-- The policy that `removePresetFromPolicy` prints. -/
def removedPolicy (fields networkPolicies : List (String × Json)) (keys : List String) :
    List (String × Json) :=
  setOwn (withoutComposed fields) "network_policies" (.obj (remainingPolicies networkPolicies keys))

/-- What is printed by an activation, the removal after it and the restoration. -/
def printedPolicies (fields networkPolicies compatibilityEntry : List (String × Json))
    (widenedBaseline : Bool) (baselineEntry : List (String × Json)) (keys : List String) :
    List (List (String × Json)) :=
  let activated := activatedPolicy fields networkPolicies compatibilityEntry widenedBaseline
  let policies := activatedPolicies networkPolicies compatibilityEntry widenedBaseline
  let removed := removedPolicy activated policies keys
  [activated, withoutComposed activated, removed,
    setPolicyEntry removed (remainingPolicies policies keys) "npm_registry" baselineEntry]

/-- The document is read back, its network policies at no other place, whatever else is shared. -/
def Yaml.ReadsBackAlone (yaml : Yaml) (document : List (String × Json)) : Prop :=
  ∀ aliases : String → List Alias, aliases "network_policies" = [] →
    yaml.parse (yaml.print (.obj document) aliases) = some (.obj document) ∧
      yaml.aliases (yaml.print (.obj document) aliases) "network_policies" = []

lemma printEdited_alone {yaml : Yaml} {source : String} {document policies : List (String × Json)}
    (h : yaml.aliases source "network_policies" = []) :
    yaml.printEdited source document policies =
      yaml.print (.obj (setOwn document "network_policies" (.obj policies)))
        (yaml.aliases source) := by
  rw [Yaml.printEdited, h, editInPlace_nil]

section Documents

variable {fields networkPolicies entry : List (String × Json)} {keys : List String}
  {widened : Bool}

lemma lookup_deleteKeys (object : List (String × Json)) (key : String) :
    (keys.foldl deleteKey object).lookup key = if key ∈ keys then none else object.lookup key := by
  induction keys generalizing object with
  | nil => simp
  | cons first rest ih =>
    rw [foldl_cons, ih, lookup_deleteKey]
    by_cases hfirst : key = first <;> simp [hfirst]

lemma keyed_deleteKeys {object : List (String × Json)} (h : Keyed (.obj object)) :
    Keyed (.obj (keys.foldl deleteKey object)) := by
  induction keys generalizing object with
  | nil => exact h
  | cons first rest ih => exact ih (h.filter _)

lemma lookup_remainingPolicies (key : String) :
    (remainingPolicies networkPolicies keys).lookup key =
      if key ∈ keys ∨ isProviderComposed key then none else networkPolicies.lookup key := by
  have hfilter := lookup_filter_key (fun name => !isProviderComposed name) networkPolicies key
  rw [remainingPolicies, lookup_deleteKeys, withoutProviderComposedPolicies, hfilter]
  by_cases hkey : key ∈ keys <;> cases isProviderComposed key <;> simp [hkey]

lemma lookup_setPolicyEntry {key : String} (hkey : key ≠ "network_policies") :
    (setPolicyEntry fields networkPolicies "npm_registry" entry).lookup key = fields.lookup key := by
  rw [setPolicyEntry, lookup_setOwn, if_neg hkey]

lemma policies_setPolicyEntry :
    (setPolicyEntry fields networkPolicies "npm_registry" entry).lookup "network_policies" =
      some (.obj (setOwn networkPolicies "npm_registry" (.obj entry))) := by
  rw [setPolicyEntry, lookup_setOwn, if_pos rfl]

lemma lookup_removedPolicy {key : String} (hkey : key ≠ "network_policies") :
    (removedPolicy fields networkPolicies keys).lookup key = fields.lookup key := by
  rw [removedPolicy, lookup_setOwn, if_neg hkey, lookup_withoutComposed _ hkey]

lemma policies_removedPolicy :
    (removedPolicy fields networkPolicies keys).lookup "network_policies" =
      some (.obj (remainingPolicies networkPolicies keys)) := by
  rw [removedPolicy, lookup_setOwn, if_pos rfl]

lemma presetPolicyMap_obj (hnonempty : networkPolicies ≠ [])
    (hobjects : ∀ entry ∈ networkPolicies, entry.2.isObject) :
    presetPolicyMap (some (.obj networkPolicies)) = some networkPolicies :=
  if_pos ⟨hnonempty, all_eq_true.mpr hobjects⟩

lemma presetPolicyMap_inv {value : Option Json}
    (h : presetPolicyMap value = some networkPolicies) :
    value = some (.obj networkPolicies) ∧ networkPolicies ≠ [] ∧
      ∀ entry ∈ networkPolicies, entry.2.isObject := by
  unfold presetPolicyMap at h
  split at h
  · split at h
    · next hvalid =>
      cases h; exact ⟨rfl, hvalid.1, all_eq_true.mp hvalid.2⟩
    · cases h
  · cases h

lemma policyMapping_ok {invalid : String}
    (h : presetPolicyMap (fields.lookup "network_policies") = some networkPolicies) :
    policyMapping (.obj fields) invalid = .ok (fields, networkPolicies) := by
  rw [policyMapping, h]

lemma presetPolicyMap_setPolicyEntry
    (h : presetPolicyMap (fields.lookup "network_policies") = some networkPolicies) :
    presetPolicyMap ((setPolicyEntry fields networkPolicies "npm_registry" entry).lookup
      "network_policies") = some (setOwn networkPolicies "npm_registry" (.obj entry)) := by
  obtain ⟨-, -, hobjects⟩ := presetPolicyMap_inv h
  rw [policies_setPolicyEntry]
  refine presetPolicyMap_obj (fun hempty => ?_) fun member hmember => ?_
  · have hself := lookup_setOwn networkPolicies "npm_registry" "npm_registry" (.obj entry)
    rw [hempty, if_pos rfl] at hself; cases hself
  · rcases mem_setOwn hmember with rfl | hold
    · rfl
    · exact hobjects member hold

lemma lookup_activatedPolicy {key : String} (hkey : key ≠ "network_policies") :
    (activatedPolicy fields networkPolicies entry widened).lookup key = fields.lookup key := by
  unfold activatedPolicy
  split
  · exact lookup_setPolicyEntry hkey
  · rfl

lemma lookup_activatedPolicies {key : String} (hkey : key ≠ "npm_registry") :
    (activatedPolicies networkPolicies entry widened).lookup key = networkPolicies.lookup key := by
  unfold activatedPolicies
  split
  · rw [lookup_setOwn, if_neg hkey]
  · rfl

lemma lookup_npm_activatedPolicies :
    (activatedPolicies networkPolicies entry widened).lookup "npm_registry" =
      if widened then some (.obj entry) else networkPolicies.lookup "npm_registry" := by
  unfold activatedPolicies
  split
  · rw [lookup_setOwn, if_pos rfl]
  · rfl

lemma presetPolicyMap_activatedPolicy
    (h : presetPolicyMap (fields.lookup "network_policies") = some networkPolicies) :
    presetPolicyMap ((activatedPolicy fields networkPolicies entry widened).lookup
      "network_policies") = some (activatedPolicies networkPolicies entry widened) := by
  unfold activatedPolicy activatedPolicies
  split
  · exact presetPolicyMap_setPolicyEntry h
  · exact h

lemma hasValidFields_activatedPolicy (hvalid : hasValidFields fields)
    (h : presetPolicyMap (fields.lookup "network_policies") = some networkPolicies) :
    hasValidFields (activatedPolicy fields networkPolicies entry widened) := by
  have hpolicies : (activatedPolicy fields networkPolicies entry widened).lookup
      "network_policies" = some (.obj (activatedPolicies networkPolicies entry widened)) :=
    (presetPolicyMap_inv (presetPolicyMap_activatedPolicy h)).1
  simp only [hasValidFields, Bool.and_eq_true] at hvalid ⊢
  rw [lookup_activatedPolicy (by decide), hpolicies]; exact ⟨hvalid.1, rfl⟩

lemma presetPolicyMap_removedPolicy
    (h : presetPolicyMap (fields.lookup "network_policies") = some networkPolicies)
    (hkeyed : Keyed (.obj networkPolicies)) {baselineEntry : Json}
    (hentry : networkPolicies.lookup "npm_registry" = some baselineEntry)
    (hkeys : "npm_registry" ∉ keys) :
    presetPolicyMap ((removedPolicy fields networkPolicies keys).lookup "network_policies") =
      some (remainingPolicies networkPolicies keys) := by
  obtain ⟨-, -, hobjects⟩ := presetPolicyMap_inv h
  have hremaining : Keyed (.obj (remainingPolicies networkPolicies keys)) :=
    keyed_deleteKeys (hkeyed.filter _)
  rw [policies_removedPolicy]
  refine presetPolicyMap_obj (fun hempty => ?_) fun member hmember => ?_
  · have hlookup : (remainingPolicies networkPolicies keys).lookup "npm_registry" = _ :=
      lookup_remainingPolicies "npm_registry"
    rw [hempty, if_neg (by simp [hkeys]; decide), hentry] at hlookup; cases hlookup
  · have hlookup := lookup_of_mem hremaining.keys_nodup hmember
    rw [lookup_remainingPolicies] at hlookup
    split at hlookup
    · cases hlookup
    · exact hobjects _ (mem_of_lookup hlookup)

end Documents

section Activation

variable {yaml : Yaml} {npmPreset : Option String} {policy baselinePolicy : String}
  {npmWasActive : Bool} {activation : OpenClawNpmActivation} {reviewed : ReviewedEntries}
  {fields networkPolicies compatibilityEntry : List (String × Json)} {baselineEntry : Json}

lemma keyed_policyObject {value : Option Json} {object : List (String × Json)}
    (hvalue : ∀ v ∈ value, Keyed v) (h : policyObject value = some object) :
    Keyed (.obj object) := by
  unfold policyObject at h
  split at h
  · next fields =>
    cases h; exact hvalue _ rfl
  · cases h

lemma keyed_parseNetworkPolicies {content : Option String} {policies : List (String × Json)}
    (hyaml : yaml.Lawful) (h : parseNetworkPolicies yaml content = some policies) :
    Keyed (.obj policies) := by
  obtain ⟨text, -, h⟩ := Option.bind_eq_some_iff.mp h
  obtain ⟨parsed, hparse, h⟩ := Option.bind_eq_some_iff.mp h
  have hkeyed := hyaml.keyed _ _ hparse
  refine keyed_policyObject (fun value hvalue => ?_) h
  cases parsed with
  | obj fields => exact hkeyed.lookup hvalue
  | _ => simp [get?] at hvalue

lemma keyed_reviewed (hyaml : yaml.Lawful)
    (h : openClawNpmReviewedEntries yaml npmPreset baselinePolicy = .ok reviewed) :
    Keyed (.obj reviewed.baseline) ∧ Keyed (.obj reviewed.preset) := by
  unfold openClawNpmReviewedEntries at h
  split at h
  · next baseline preset hbaseline hpreset =>
    cases h
    obtain ⟨policies, hpolicies, hbaseline⟩ := Option.bind_eq_some_iff.mp hbaseline
    obtain ⟨policies', hpolicies', hpreset⟩ := Option.bind_eq_some_iff.mp hpreset
    have hkeyed := keyed_parseNetworkPolicies hyaml hpolicies
    have hkeyed' := keyed_parseNetworkPolicies hyaml hpolicies'
    exact ⟨keyed_policyObject (fun _ hvalue => hkeyed.lookup hvalue) hbaseline,
      keyed_policyObject (fun _ hvalue => hkeyed'.lookup hvalue) hpreset⟩
  · cases h

lemma activate_ok_iff (hparse : yaml.parse policy = some (.obj fields))
    (halone : yaml.aliases policy "network_policies" = [])
    (hpolicies : presetPolicyMap (fields.lookup "network_policies") = some networkPolicies)
    (hentry : networkPolicies.lookup "npm_registry" = some baselineEntry)
    (hreviewed : openClawNpmReviewedEntries yaml npmPreset baselinePolicy = .ok reviewed)
    (hcompatible : npmCompatibilityEntry reviewed.baseline reviewed.preset =
      .ok compatibilityEntry) :
    activateOpenClawNpmCompatibility yaml npmPreset policy baselinePolicy npmWasActive =
      .ok activation ↔
    hasEntry networkPolicies ("npm_yarn", .obj reviewed.preset) ∧
      if isDeepStrictEqual baselineEntry (.obj compatibilityEntry) then
        npmWasActive ∧ activation = ⟨policy, false⟩
      else isDeepStrictEqual baselineEntry (.obj reviewed.baseline) ∧
        activation = ⟨yaml.print (.obj (activatedPolicy fields networkPolicies
          compatibilityEntry true)) (yaml.aliases policy), true⟩ := by
  have hobject : baselineEntry.isObject :=
    (presetPolicyMap_inv hpolicies).2.2 _ (mem_of_lookup hentry)
  unfold activateOpenClawNpmCompatibility
  rw [yamlParse, hparse]
  simp only [bind, Except.bind]
  rw [policyMapping_ok hpolicies]
  simp only [hentry, hreviewed, hcompatible]
  rw [require, if_pos hobject]
  simp only [require]
  by_cases hnpm : hasEntry networkPolicies ("npm_yarn", .obj reviewed.preset)
  · simp only [hnpm, if_true, true_and]
    by_cases hsame : isDeepStrictEqual baselineEntry (.obj compatibilityEntry)
    · cases npmWasActive <;> simp [hsame, pure, Except.pure, eq_comm]
    · by_cases hbase : isDeepStrictEqual baselineEntry (.obj reviewed.baseline)
      · rw [printEdited_alone halone]
        simp [hsame, hbase, pure, Except.pure, activatedPolicy, setPolicyEntry, eq_comm]
      · simp [hsame, hbase]
  · simp [hnpm]

end Activation

section Restoring

variable {yaml : Yaml} {npmPreset : Option String}
  {policy baselinePolicy current updated presetEntries : String} {npmWasActive : Bool}
  {activation : OpenClawNpmActivation} {reviewed : ReviewedEntries}
  {fields networkPolicies preset compatibilityEntry updatedFields updatedPolicies :
    List (String × Json)} {baselineEntry : Json}

lemma removePresetFromPolicy_ok (hyaml : yaml.Lawful)
    (hparse : yaml.parse current = some (.obj fields)) (htrimmed : jsTrim current = current)
    (hseparator : afterSeparator current = none) (hvalid : hasValidFields fields)
    (hpolicies : fields.lookup "network_policies" = some (.obj networkPolicies))
    (halone : yaml.aliases current "network_policies" = [])
    (hreads : yaml.ReadsBackAlone (withoutComposed fields))
    (hpreset : presetPoliciesOf yaml presetEntries = some preset) :
    ∃ aliases : String → List Alias, aliases "network_policies" = [] ∧
      removePresetFromPolicy yaml current presetEntries =
        .ok (yaml.print (.obj (removedPolicy fields networkPolicies (preset.map (·.1))))
          aliases) := by
  have hbody : parseOpenShellPolicy yaml current = some current := by
    have htrim := parse_merged hyaml hseparator (by rw [htrimmed]; exact hparse) hvalid
      (.inr (by rw [hpolicies]; rfl))
    rwa [htrimmed] at htrim
  have hread : parseCurrentPolicyOrEmpty yaml current = current := by
    rw [parseCurrentPolicyOrEmpty, hbody, Option.getD_some]
  have hpolicy : policyOf yaml current = fields := by
    rw [policyOf, hread, hparse]
  have hstripped : withoutComposed fields = setOwn fields "network_policies"
      (.obj (withoutProviderComposedPolicies networkPolicies)) := by
    rw [withoutComposed, hpolicies]
  obtain ⟨hne, -⟩ := parse_body hbody
  obtain ⟨hstripsBack, hstripsAlone⟩ := hreads (fun _ => []) rfl
  have hnormal : ∃ normalized, yaml.aliases normalized "network_policies" = [] ∧
      ∀ invalid, normalizedPolicy yaml current invalid = .ok normalized := by
    simp only [normalizedPolicy, hread, stripProviderComposedPolicies, hparse, hpolicies]
    split
    · exact ⟨_, halone, fun invalid => require_bind_ok (fun hboth => hne hboth.2) rfl⟩
    · rw [← hstripped]
      exact ⟨_, hstripsAlone, fun invalid => require_bind_ok (fun hboth => hne hboth.2) rfl⟩
  obtain ⟨normalized, hnormalAlone, hnormalized⟩ := hnormal
  have hspec := normalizedPolicy_spec hyaml (by rw [hpolicy]; exact hstripsBack) (hnormalized "")
  rw [hpolicy] at hspec
  rcases hspec with ⟨-, hempty⟩ | ⟨hne', hagain⟩
  · rw [hempty] at hpolicies; cases hpolicies
  refine ⟨yaml.aliases normalized, hnormalAlone, except_bind_ok (hnormalized _) ?_⟩
  rw [if_neg (presetEntries_ne_empty hyaml hpreset)]
  refine except_bind_ok (a := preset) (by rw [parsePresetEntries, hpreset]) ?_
  rw [if_neg (presetPoliciesOf_spec hpreset).1, if_neg hne']
  refine except_bind_ok (a := withoutComposed fields) (by rw [parseCurrent, hagain]) ?_
  rw [removedPolicy, hstripped, lookup_setOwn, if_pos rfl]
  exact congrArg Except.ok (printEdited_alone hnormalAlone)

lemma restore_eq (hparse : yaml.parse current = some (.obj fields))
    (hpolicies : presetPolicyMap (fields.lookup "network_policies") = some networkPolicies)
    (hupdated : yaml.parse updated = some (.obj updatedFields))
    (hupdatedPolicies : presetPolicyMap (updatedFields.lookup "network_policies") =
      some updatedPolicies)
    (hentry : networkPolicies.lookup "npm_registry" = some baselineEntry)
    (hreviewed : openClawNpmReviewedEntries yaml npmPreset baselinePolicy = .ok reviewed)
    {restored : String}
    (hform : isDeepStrictEqual baselineEntry (.obj reviewed.baseline) ∧
        restored = updated ∨
      isDeepStrictEqual baselineEntry (.obj reviewed.baseline) = false ∧
        ∃ npmEntry compatible, networkPolicies.lookup "npm_yarn" = some (.obj npmEntry) ∧
          npmCompatibilityEntry reviewed.baseline npmEntry = .ok compatible ∧
          isDeepStrictEqual baselineEntry (.obj compatible) ∧
          restored = yaml.printEdited updated updatedFields
            (setOwn updatedPolicies "npm_registry" (.obj reviewed.baseline))) :
    restoreOpenClawNpmCompatibility yaml npmPreset current updated baselinePolicy =
      .ok restored := by
  have hobject : baselineEntry.isObject :=
    (presetPolicyMap_inv hpolicies).2.2 _ (mem_of_lookup hentry)
  refine except_bind_ok (a := .obj fields) (by rw [yamlParse, hparse]) ?_
  refine except_bind_ok (a := .obj updatedFields) (by rw [yamlParse, hupdated]) ?_
  refine except_bind_ok (policyMapping_ok hpolicies) ?_
  refine except_bind_ok (policyMapping_ok hupdatedPolicies) ?_
  simp only [hentry]
  refine require_bind_ok hobject (except_bind_ok hreviewed ?_)
  rcases hform with ⟨hsame, rfl⟩ | ⟨hother, npmEntry, compatible, hnpm, hcompatible, hsame, rfl⟩
  · rw [if_pos hsame]; rfl
  · rw [hother, if_neg (by simp), hnpm]
    exact except_bind_ok hcompatible (require_bind_ok hsame rfl)

lemma hasEntry_iff {entry : String × Json} : hasEntry networkPolicies entry ↔
    ∃ value, networkPolicies.lookup entry.1 = some value ∧
      isDeepStrictEqual value entry.2 := by
  unfold hasEntry; cases networkPolicies.lookup entry.1 <;> simp

lemma restore_ok {keys : List String} (hyaml : yaml.Lawful)
    (hparse : yaml.parse current = some (.obj fields))
    (hpolicies : presetPolicyMap (fields.lookup "network_policies") = some networkPolicies)
    (hupdated : yaml.parse updated = some (.obj (removedPolicy fields networkPolicies keys)))
    (hkeys : "npm_registry" ∉ keys)
    (hentry : networkPolicies.lookup "npm_registry" = some baselineEntry)
    (hreviewed : openClawNpmReviewedEntries yaml npmPreset baselinePolicy = .ok reviewed)
    (hform : isDeepStrictEqual baselineEntry (.obj reviewed.baseline) ∨
      ∃ npmEntry, networkPolicies.lookup "npm_yarn" = some (.obj npmEntry) ∧
        ∃ compatible, npmCompatibilityEntry reviewed.baseline npmEntry = .ok compatible ∧
          isDeepStrictEqual baselineEntry (.obj compatible))
    (halone : yaml.aliases updated "network_policies" = [])
    (hprinted : yaml.ReadsBackAlone (setPolicyEntry (removedPolicy fields networkPolicies keys)
      (remainingPolicies networkPolicies keys) "npm_registry" reviewed.baseline)) :
    ∃ restored final entries value,
      restoreOpenClawNpmCompatibility yaml npmPreset current updated baselinePolicy =
        .ok restored ∧
      yaml.parse restored = some (.obj final) ∧
      (∀ key, key ≠ "network_policies" → final.lookup key = fields.lookup key) ∧
      final.lookup "network_policies" = some (.obj entries) ∧
      (∀ key, key ≠ "npm_registry" →
        entries.lookup key = (remainingPolicies networkPolicies keys).lookup key) ∧
      entries.lookup "npm_registry" = some value ∧ Same value (.obj reviewed.baseline) := by
  have hkeyed : Keyed (.obj networkPolicies) :=
    (hyaml.keyed _ _ hparse).lookup (presetPolicyMap_inv hpolicies).1
  have hkeyedBase := (keyed_reviewed hyaml hreviewed).1
  have hmap := presetPolicyMap_removedPolicy hpolicies hkeyed hentry hkeys
  cases hbase : isDeepStrictEqual baselineEntry (.obj reviewed.baseline) with
  | true =>
    refine ⟨updated, _, _, baselineEntry,
      restore_eq hparse hpolicies hupdated hmap hentry hreviewed (.inl ⟨hbase, rfl⟩), hupdated,
      fun key hkey => lookup_removedPolicy hkey, policies_removedPolicy, fun _ _ => rfl, ?_,
      hkeyed.lookup hentry, hkeyedBase, hbase⟩
    rw [lookup_remainingPolicies, if_neg (by simp [hkeys]; decide), hentry]
  | false =>
    rw [hbase] at hform
    obtain ⟨npmEntry, hnpm, compatible, hcompatible, hsame⟩ := hform.resolve_left (by simp)
    have hrestore := restore_eq hparse hpolicies hupdated hmap hentry hreviewed
      (.inr ⟨hbase, npmEntry, compatible, hnpm, hcompatible, hsame, rfl⟩)
    rw [printEdited_alone halone] at hrestore
    refine ⟨_, _, _, _, hrestore, (hprinted _ halone).1,
      fun key hkey => ?_, policies_setPolicyEntry, fun key hkey => ?_,
      ?_, .refl hkeyedBase⟩
    · rw [lookup_setPolicyEntry hkey, lookup_removedPolicy hkey]
    · rw [lookup_setOwn, if_neg hkey]
    · rw [lookup_setOwn, if_pos rfl]

lemma entry_activated {entry : Json} {widened : Bool} (hkeyed : Keyed (.obj networkPolicies))
    (hkeyedBase : Keyed (.obj reviewed.baseline)) (hkeyedPreset : Keyed (.obj reviewed.preset))
    (hnpm : hasEntry networkPolicies ("npm_yarn", .obj reviewed.preset))
    (hcompatible : npmCompatibilityEntry reviewed.baseline reviewed.preset =
      .ok compatibilityEntry)
    (hentry : networkPolicies.lookup "npm_registry" = some baselineEntry)
    (hbase : isDeepStrictEqual baselineEntry (.obj reviewed.baseline))
    (hactive : (activatedPolicies networkPolicies compatibilityEntry widened).lookup
      "npm_registry" = some entry) :
    isDeepStrictEqual entry (.obj reviewed.baseline) ∨
      ∃ npmEntry, (activatedPolicies networkPolicies compatibilityEntry widened).lookup
        "npm_yarn" = some (.obj npmEntry) ∧
        ∃ compatible, npmCompatibilityEntry reviewed.baseline npmEntry = .ok compatible ∧
          isDeepStrictEqual entry (.obj compatible) := by
  rw [lookup_npm_activatedPolicies] at hactive
  split at hactive
  · cases hactive
    obtain ⟨value, hvalue, hequal⟩ := hasEntry_iff.mp hnpm
    have hpreset : Same value (.obj reviewed.preset) :=
      ⟨hkeyed.lookup hvalue, hkeyedPreset, hequal⟩
    obtain ⟨npmEntry, rfl⟩ := obj_of_deepEqual hpreset.symm.equal
    obtain ⟨compatible, hfound, hsame⟩ := npmCompatibilityEntry_same hkeyedBase hpreset.symm
      hcompatible
    refine .inr ⟨npmEntry, ?_, compatible, hfound, hsame.equal⟩
    rw [lookup_activatedPolicies (by decide)]; exact hvalue
  · cases hentry.symm.trans hactive; exact .inl hbase

section Activated

variable (hpolicy : yaml.parse policy = some (.obj fields))
  (halone : yaml.aliases policy "network_policies" = [])
  (hpolicies : presetPolicyMap (fields.lookup "network_policies") = some networkPolicies)
  (hreviewed : openClawNpmReviewedEntries yaml npmPreset baselinePolicy = .ok reviewed)
  (hentry : networkPolicies.lookup "npm_registry" = some baselineEntry)
  (hcompatible : npmCompatibilityEntry reviewed.baseline reviewed.preset =
    .ok compatibilityEntry)
  (hactivate : activateOpenClawNpmCompatibility yaml npmPreset policy baselinePolicy
    npmWasActive = .ok activation)
  (hprinted : yaml.ReadsBackAlone (activatedPolicy fields networkPolicies compatibilityEntry
    activation.widenedBaseline))
include hpolicy halone hpolicies hreviewed hentry hcompatible hactivate hprinted

/-- What an activation returns is read as the activated policy. -/
lemma parse_activated :
    yaml.parse activation.policy = some (.obj (activatedPolicy fields networkPolicies
        compatibilityEntry activation.widenedBaseline)) ∧
      yaml.aliases activation.policy "network_policies" = [] := by
  obtain ⟨-, houtcome⟩ :=
    (activate_ok_iff hpolicy halone hpolicies hentry hreviewed hcompatible).mp hactivate
  split at houtcome
  · rw [houtcome.2]; exact ⟨hpolicy, halone⟩
  · rw [houtcome.2] at hprinted ⊢; exact hprinted _ halone

/-- The compatible entry is recognised in the activated policy. -/
lemma activate_again (hyaml : yaml.Lawful) :
    activateOpenClawNpmCompatibility yaml npmPreset activation.policy baselinePolicy true =
      .ok ⟨activation.policy, false⟩ := by
  obtain ⟨hkeyedBase, hkeyedPreset⟩ := keyed_reviewed hyaml hreviewed
  obtain ⟨hparse, hactiveAlone⟩ := parse_activated hpolicy halone hpolicies hreviewed hentry
    hcompatible hactivate hprinted
  obtain ⟨hnpm, houtcome⟩ :=
    (activate_ok_iff hpolicy halone hpolicies hentry hreviewed hcompatible).mp hactivate
  split at houtcome
  · obtain ⟨rfl, houtcome⟩ := houtcome
    rw [houtcome] at hactivate ⊢; exact hactivate
  · rw [houtcome.2] at hparse hactiveAlone ⊢
    refine (activate_ok_iff hparse hactiveAlone (presetPolicyMap_activatedPolicy hpolicies)
      lookup_npm_activatedPolicies hreviewed hcompatible).mpr ⟨?_, ?_⟩
    · rw [hasEntry, lookup_activatedPolicies (show "npm_yarn" ≠ "npm_registry" by decide)]
      exact hnpm
    · rw [if_pos (isDeepStrictEqual_refl
        (keyed_npmCompatibilityEntry hkeyedBase hkeyedPreset hcompatible))]
      exact ⟨rfl, rfl⟩

end Activated

/-- A policy with the reviewed entry of the baseline is activated once, and removing the preset
and restoring gives it back without the entries of the preset and of providers. -/
theorem openClawNpmCompatibility_restored (hyaml : yaml.Lawful)
    (hpolicy : yaml.parse policy = some (.obj fields)) (hvalid : hasValidFields fields)
    (halone : yaml.aliases policy "network_policies" = [])
    (hpolicies : presetPolicyMap (fields.lookup "network_policies") = some networkPolicies)
    (hreviewed : openClawNpmReviewedEntries yaml npmPreset baselinePolicy = .ok reviewed)
    (hentry : hasEntry networkPolicies ("npm_registry", .obj reviewed.baseline))
    (hcompatible : npmCompatibilityEntry reviewed.baseline reviewed.preset =
      .ok compatibilityEntry)
    (hactivate : activateOpenClawNpmCompatibility yaml npmPreset policy baselinePolicy
      npmWasActive = .ok activation)
    (hpreset : presetPoliciesOf yaml presetEntries = some preset)
    (hkeys : "npm_registry" ∉ preset.map (·.1))
    (hcurrent : yaml.parse current = yaml.parse activation.policy)
    (hcurrentAlone : yaml.aliases current "network_policies" = [])
    (htrimmed : jsTrim current = current) (hseparator : afterSeparator current = none)
    (hprinted : ∀ document ∈ printedPolicies fields networkPolicies compatibilityEntry
      activation.widenedBaseline reviewed.baseline (preset.map (·.1)),
      yaml.ReadsBackAlone document) :
    activateOpenClawNpmCompatibility yaml npmPreset activation.policy baselinePolicy true =
      .ok ⟨activation.policy, false⟩ ∧
    ∃ updated restored final entries,
      removePresetFromPolicy yaml current presetEntries = .ok updated ∧
      restoreOpenClawNpmCompatibility yaml npmPreset current updated baselinePolicy =
        .ok restored ∧
      yaml.parse restored = some (.obj final) ∧
      (∀ key, key ≠ "network_policies" → final.lookup key = fields.lookup key) ∧
      final.lookup "network_policies" = some (.obj entries) ∧
      ∀ key, SameField (entries.lookup key)
        (if key ∈ preset.map (·.1) ∨ isProviderComposed key then none
        else networkPolicies.lookup key) := by
  obtain ⟨entry, hentry, hbase⟩ := hasEntry_iff.mp hentry
  have hkeyed : Keyed (.obj networkPolicies) :=
    (hyaml.keyed _ _ hpolicy).lookup (presetPolicyMap_inv hpolicies).1
  obtain ⟨hkeyedBase, hkeyedPreset⟩ := keyed_reviewed hyaml hreviewed
  obtain ⟨hnpm, -⟩ :=
    (activate_ok_iff hpolicy halone hpolicies hentry hreviewed hcompatible).mp hactivate
  simp only [printedPolicies, forall_mem_cons] at hprinted
  obtain ⟨hactivated, hstripped, hremoved, hrestored, -⟩ := hprinted
  have hread := hcurrent.trans (parse_activated hpolicy halone hpolicies hreviewed hentry
    hcompatible hactivate hactivated).1
  refine ⟨activate_again hpolicy halone hpolicies hreviewed hentry hcompatible hactivate
    hactivated hyaml, ?_⟩
  have hmap : presetPolicyMap ((activatedPolicy fields networkPolicies compatibilityEntry
      activation.widenedBaseline).lookup "network_policies") = some (activatedPolicies
        networkPolicies compatibilityEntry activation.widenedBaseline) :=
    presetPolicyMap_activatedPolicy hpolicies
  obtain ⟨active, hactive⟩ : ∃ active, (activatedPolicies networkPolicies compatibilityEntry
      activation.widenedBaseline).lookup "npm_registry" = some active := by
    rw [lookup_npm_activatedPolicies]
    split
    · exact ⟨_, rfl⟩
    · exact ⟨_, hentry⟩
  -- the removal runs on the activated document, the restoration on what the removal printed
  obtain ⟨aliases, haliases, hupdated⟩ := removePresetFromPolicy_ok hyaml hread htrimmed hseparator
    (hasValidFields_activatedPolicy hvalid hpolicies) (presetPolicyMap_inv hmap).1 hcurrentAlone
    hstripped hpreset
  obtain ⟨hremovedBack, hremovedAlone⟩ := hremoved aliases haliases
  have hform := entry_activated hkeyed hkeyedBase hkeyedPreset hnpm hcompatible hentry hbase
    hactive
  obtain ⟨restored, final, entries, value, hrestore, hfinal, hsections, hentries, hothers, hvalue,
    hsame⟩ := restore_ok hyaml hread hmap hremovedBack hkeys hactive hreviewed hform hremovedAlone
      hrestored
  refine ⟨_, restored, final, entries, hupdated, hrestore, hfinal, fun key hkey => ?_, hentries,
    fun key => ?_⟩
  · rw [hsections key hkey, lookup_activatedPolicy hkey]
  have hentrySame : Same entry (.obj reviewed.baseline) :=
    ⟨hkeyed.lookup hentry, hkeyedBase, hbase⟩
  by_cases hkey : key = "npm_registry"
  · subst hkey
    rw [hvalue, if_neg (by simp [hkeys]; decide), hentry]
    exact (hsame.trans hentrySame.symm).equal
  · rw [hothers key hkey, lookup_remainingPolicies, lookup_activatedPolicies hkey]
    split
    · trivial
    · exact .refl fun value hvalue => hkeyed.lookup hvalue

end Restoring

def restrictedEntry : List (String × Json) :=
  [("endpoints", .arr [.obj [("host", .str "npm"), ("port", .num 443), ("tls", .str "skip")]])]

def npmEntry : List (String × Json) :=
  [("endpoints", .arr [.obj [("host", .str "npm"), ("port", .num 443)]])]

def npmDocument (policies : List (String × List (String × Json))) : Json :=
  .obj [("network_policies", .obj (policies.map fun policy => (policy.1, .obj policy.2)))]

def restrictedText : String :=
  "network_policies:\n  npm_registry:\n    endpoints:\n      - host: npm\n        port: 443\n" ++
    "        tls: skip\n"

def widenedText : String :=
  "network_policies:\n  npm_registry:\n    endpoints:\n      - host: npm\n        port: 443\n"

def npmText : String :=
  "  npm_yarn:\n    endpoints:\n      - host: npm\n        port: 443"

/-- The texts of the reviewed baseline and preset, of policies with both entries and of what is left
without the preset. -/
def npmYaml : Yaml := yamlOf
  [(restrictedText, npmDocument [("npm_registry", restrictedEntry)]),
    ("network_policies:\n" ++ npmText ++ "\n", npmDocument [("npm_yarn", npmEntry)]),
    (restrictedText ++ npmText ++ "\n",
      npmDocument [("npm_registry", restrictedEntry), ("npm_yarn", npmEntry)]),
    (widenedText ++ npmText ++ "\n",
      npmDocument [("npm_registry", npmEntry), ("npm_yarn", npmEntry)]),
    (widenedText ++ npmText, npmDocument [("npm_registry", npmEntry), ("npm_yarn", npmEntry)]),
    (widenedText, npmDocument [("npm_registry", npmEntry)])]

lemma npmYaml_lawful : npmYaml.Lawful :=
  yamlOf_lawful (by simp [npmDocument, restrictedEntry, npmEntry, Keyed.arr])

set_option maxRecDepth 2000 in
lemma npmYaml_policy : npmYaml.parse (restrictedText ++ npmText ++ "\n") =
    some (npmDocument [("npm_registry", restrictedEntry), ("npm_yarn", npmEntry)]) := rfl

lemma npmYaml_reviewed : openClawNpmReviewedEntries npmYaml
    (some ("network_policies:\n" ++ npmText ++ "\n")) restrictedText =
      .ok ⟨restrictedEntry, npmEntry⟩ := rfl

lemma npmYaml_activates : activateOpenClawNpmCompatibility npmYaml
    (some ("network_policies:\n" ++ npmText ++ "\n")) (restrictedText ++ npmText ++ "\n")
    restrictedText false = .ok ⟨widenedText ++ npmText ++ "\n", true⟩ := by
  refine (activate_ok_iff npmYaml_policy rfl rfl rfl npmYaml_reviewed rfl).mpr ⟨by decide, ?_⟩
  rw [if_neg (by decide)]; exact ⟨by decide, rfl⟩

set_option maxRecDepth 2000 in
lemma npmYaml_printed : ∀ document ∈ printedPolicies
    [("network_policies",
      .obj [("npm_registry", .obj restrictedEntry), ("npm_yarn", .obj npmEntry)])]
    [("npm_registry", .obj restrictedEntry), ("npm_yarn", .obj npmEntry)] npmEntry true
    restrictedEntry ["npm_yarn"], npmYaml.ReadsBackAlone document := by
  simp only [printedPolicies, forall_mem_cons]
  exact ⟨fun _ _ => ⟨rfl, rfl⟩, fun _ _ => ⟨rfl, rfl⟩, fun _ _ => ⟨rfl, rfl⟩,
    fun _ _ => ⟨rfl, rfl⟩, by simp⟩

set_option maxRecDepth 2000 in
/-- What is printed is trimmed before the preset is removed. -/
lemma npmYaml_trimmed : jsTrim (widenedText ++ npmText) = widenedText ++ npmText ∧
    afterSeparator (widenedText ++ npmText) = none ∧
    npmYaml.parse (widenedText ++ npmText) = npmYaml.parse (widenedText ++ npmText ++ "\n") :=
  ⟨by decide +kernel, by decide +kernel, rfl⟩

/-- A restricted entry is replaced, recognised when it is activated again, and put back. -/
theorem openClawNpmCompatibility_restored_npm :
    activateOpenClawNpmCompatibility npmYaml (some ("network_policies:\n" ++ npmText ++ "\n"))
      (widenedText ++ npmText ++ "\n") restrictedText true =
        .ok ⟨widenedText ++ npmText ++ "\n", false⟩ ∧
    ∃ updated restored final entries,
      removePresetFromPolicy npmYaml (widenedText ++ npmText) (npmText ++ "\n") = .ok updated ∧
      restoreOpenClawNpmCompatibility npmYaml (some ("network_policies:\n" ++ npmText ++ "\n"))
        (widenedText ++ npmText) updated restrictedText = .ok restored ∧
      npmYaml.parse restored = some (.obj final) ∧
      final.lookup "network_policies" = some (.obj entries) ∧
      SameField (entries.lookup "npm_registry") (some (.obj restrictedEntry)) := by
  have hpreset : presetPoliciesOf npmYaml (npmText ++ "\n") =
      some [("npm_yarn", .obj npmEntry)] := rfl
  obtain ⟨htrimmed, hseparator, hcurrent⟩ := npmYaml_trimmed
  obtain ⟨hagain, updated, restored, final, entries, hremove, hrestore, hfinal, -, hentries,
    hsame⟩ := openClawNpmCompatibility_restored npmYaml_lawful npmYaml_policy rfl rfl rfl
      npmYaml_reviewed (by decide) rfl npmYaml_activates hpreset (by decide) hcurrent rfl htrimmed
      hseparator npmYaml_printed
  exact ⟨hagain, updated, restored, final, entries, hremove, hrestore, hfinal, hentries,
    hsame "npm_registry"⟩

set_option maxRecDepth 2000 in
/-- A second activation that is told that the preset is not active throws. -/
theorem activateOpenClawNpmCompatibility_twice :
    openClawNpmReviewedEntries npmYaml (some ("network_policies:\n" ++ npmText ++ "\n"))
      restrictedText = .ok ⟨restrictedEntry, npmEntry⟩ ∧
    npmYaml.parse (restrictedText ++ npmText ++ "\n") =
      some (npmDocument [("npm_registry", restrictedEntry), ("npm_yarn", npmEntry)]) ∧
    activateOpenClawNpmCompatibility npmYaml (some ("network_policies:\n" ++ npmText ++ "\n"))
      (restrictedText ++ npmText ++ "\n") restrictedText false =
        .ok ⟨widenedText ++ npmText ++ "\n", true⟩ ∧
    activateOpenClawNpmCompatibility npmYaml (some ("network_policies:\n" ++ npmText ++ "\n"))
      (widenedText ++ npmText ++ "\n") restrictedText false =
        .error ("Cannot compose 'npm_yarn': found a compatibility overlay without an active npm " ++
          "preset.") := by
  exact ⟨npmYaml_reviewed, npmYaml_policy, npmYaml_activates, rfl⟩

end NemoClaw.Policy
