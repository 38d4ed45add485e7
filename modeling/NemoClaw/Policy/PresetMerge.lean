import NemoClaw.Js.Call
import NemoClaw.Js.SharedObjects
import NemoClaw.Js.Text

/- Network policy presets that are merged into the policy of a sandbox.

Correspondence (policy/index.ts, policy/preset-parsing.ts and
shared/openshell-policy-boundary.cts ↔ Lean): definitions keep the source's names; what
`mergePresetIntoPolicy` and `removePresetFromPolicy` do first is one definition each. `Yaml`
has the parser, with `none` where it throws, its message and the printer. A document is a
tree, each mapping the list of its properties in order of insertion, with the other places at
which an alias of a mapping stands. `Except` has the message of what is thrown; the messages
of `parseOpenShellPolicy` are not looked at by its caller here.

What is proved: a merge keeps the other sections and the other entries, takes those of the
preset, is recognised as the preset's, and is its own merge. Entries of providers are
filtered out on both sides.
-/
namespace NemoClaw.Policy

open Js Js.Json List

structure Yaml where
  parse : String → Option Json
  /-- The other places of the mapping under a key, in the document of a text. -/
  aliases : String → String → List Alias
  failure : String → String
  /-- The text of a document, with the aliases of what stands under its keys; a place that is
  not there any more counts for nothing. -/
  print : Json → (String → List Alias) → String

/-- The text of a document without aliases. -/
def Yaml.stringify (yaml : Yaml) (document : Json) : String := yaml.print document fun _ => []

/-- Aliases are of mappings, and stand where the parser shows them. -/
structure Yaml.Aliased (yaml : Yaml) : Prop where
  shared : ∀ source document, yaml.parse source = some (.obj document) →
    ∀ key, Shared document key (yaml.aliases source key)
  mapping : ∀ source document, yaml.parse source = some (.obj document) →
    ∀ key, yaml.aliases source key ≠ [] → ∃ fields, document.lookup key = some (.obj fields)

/-- What is parsed is a value as it is in memory; what is not there is `null`. -/
structure Yaml.Lawful (yaml : Yaml) : Prop where
  keyed : ∀ text value, yaml.parse text = some value → Keyed value
  empty : yaml.parse "" = some .null
  bare : yaml.parse "network_policies:\n" = some (.obj [("network_policies", .null)])

/-- The text of a document whose network policies have been edited in place. -/
def Yaml.printEdited (yaml : Yaml) (source : String) (document policies : List (String × Json)) :
    String :=
  yaml.print (.obj (editInPlace document "network_policies" (.obj policies)
    (yaml.aliases source "network_policies"))) (yaml.aliases source)

def Yaml.ReadsBack (yaml : Yaml) (document : Json) : Prop :=
  yaml.parse (yaml.stringify document) = some document

/-- The parser and the printer of a few texts. -/
def yamlOf (texts : List (String × Json))
    (aliases : String → String → List Alias := fun _ _ => []) : Yaml where
  parse text := (("", .null) :: ("network_policies:\n", .obj [("network_policies", .null)]) ::
    texts).lookup text
  aliases
  failure _ := "Unexpected text"
  print document _ :=
    ((texts.find? fun entry => isDeepStrictEqual entry.2 document).map (·.1)).getD ""

lemma yamlOf_lawful {texts : List (String × Json)} {aliases : String → String → List Alias}
    (h : ∀ entry ∈ texts, Keyed entry.2) : (yamlOf texts aliases).Lawful := by
  refine ⟨fun text value hparse => ?_, rfl, rfl⟩
  have hmem : (text, value) ∈ ("", .null) ::
      ("network_policies:\n", .obj [("network_policies", .null)]) :: texts := mem_of_lookup hparse
  simp only [mem_cons] at hmem
  rcases hmem with hempty | hbare | hmem
  · obtain ⟨-, rfl⟩ := Prod.mk.inj hempty; exact .null
  · obtain ⟨-, rfl⟩ := Prod.mk.inj hbare; simp
  · exact h _ hmem

/-- In some texts two sections are one mapping. -/
def twoSections (texts : List String) (first second source key : String) : List Alias :=
  if source ∈ texts ∧ key = first then [(second, [])]
  else if source ∈ texts ∧ key = second then [(first, [])]
  else []

lemma yamlOf_aliased {entries : List (String × Json)} {texts : List String}
    {first second : String} (hne : first ≠ second)
    (hpair : ∀ source ∈ texts, ∀ document,
      (yamlOf entries (twoSections texts first second)).parse source = some (.obj document) →
        ∃ fields, document.lookup first = some (.obj fields) ∧
          document.lookup second = some (.obj fields)) :
    (yamlOf entries (twoSections texts first second)).Aliased := by
  have hcases : ∀ source document,
      (yamlOf entries (twoSections texts first second)).parse source = some (.obj document) →
      ∀ key, twoSections texts first second source key = [] ∨ ∃ fields other, other ≠ key ∧
        twoSections texts first second source key = [(other, [])] ∧
        document.lookup key = some (.obj fields) ∧ document.lookup other = some (.obj fields) := by
    intro source document hparse key
    unfold twoSections
    split
    · next h =>
      obtain ⟨hsource, rfl⟩ := h
      obtain ⟨fields, hfirst, hsecond⟩ := hpair source hsource document hparse
      exact .inr ⟨fields, second, hne.symm, rfl, hfirst, hsecond⟩
    split
    · next h =>
      obtain ⟨hsource, rfl⟩ := h
      obtain ⟨fields, hfirst, hsecond⟩ := hpair source hsource document hparse
      exact .inr ⟨fields, first, hne, rfl, hsecond, hfirst⟩
    · exact .inl rfl
  refine ⟨fun source document hparse key => ?_, fun source document hparse key haliases => ?_⟩
  · show Shared document key (twoSections texts first second source key)
    rcases hcases source document hparse key with hnone | ⟨fields, other, hother, hone, hkey, hsame⟩
    · rw [hnone]; exact .nil document key
    · rw [hone]; exact .whole hother hkey hsame
  · rcases hcases source document hparse key with hnone | ⟨fields, -, -, -, hkey, -⟩
    · exact absurd hnone haliases
    · exact ⟨fields, hkey⟩

/-- `isPresetPolicyMap`, with the properties. -/
def presetPolicyMap : Option Json → Option (List (String × Json))
  | some (.obj fields) =>
    if fields ≠ [] ∧ fields.all fun entry => entry.2.isObject then some fields else none
  | _ => none

/-- `-{3}[ \t]*(?:\r?\n|$)`: what comes after it. -/
def separatorHere : List Char → Option (List Char)
  | '-' :: '-' :: '-' :: rest =>
    match rest.dropWhile fun c => c = ' ' || c = '\t' with
    | [] => some []
    | '\n' :: after => some after
    | '\r' :: '\n' :: after => some after
    | _ => none
  | _ => none

/-- The first separator at the beginning of a later line. -/
def separatorBelow : List Char → Option (List Char)
  | [] => none
  | c :: rest => if c = '\n' then (separatorHere rest).or (separatorBelow rest) else separatorBelow rest

def afterSeparator (raw : String) : Option String :=
  ((separatorHere raw.toList).or (separatorBelow raw.toList)).map String.ofList

/-- `assertValidatedPolicyFields`. -/
def hasValidFields (policy : List (String × Json)) : Bool :=
  (match policy.lookup "version" with
    | none => true
    | some (.num version) => version.den = 1 && 1 ≤ version
    | some _ => false) &&
  match policy.lookup "network_policies" with
  | none => true
  | some value => value.isObject

/-- The metadata header ends with a separator; without one the document must look like a
policy. -/
def parseOpenShellPolicy (yaml : Yaml) (raw : String) : Option String :=
  let separator := afterSeparator raw
  let yamlBody := jsTrim (separator.getD raw)
  if yamlBody = "" then none
  else
    match yaml.parse yamlBody with
    | some (.obj policy) =>
      if hasValidFields policy && (separator.isSome || (policy.lookup "version").isSome ||
          (policy.lookup "network_policies").isSome) then
        some yamlBody
      else none
    | _ => none

def parseCurrentPolicyOrEmpty (yaml : Yaml) (raw : String) : String :=
  (parseOpenShellPolicy yaml raw).getD ""

/-- `name.startsWith("_provider_")`. -/
def isProviderComposed (name : String) : Bool := "_provider_".toList.isPrefixOf name.toList

def withoutProviderComposedPolicies (policies : List (String × Json)) : List (String × Json) :=
  policies.filter fun entry => !isProviderComposed entry.1

def stripProviderComposedPolicies (yaml : Yaml) (policy : String) : Except String String :=
  match yaml.parse policy with
  | none => .error "Cannot filter provider-composed policy entries from invalid YAML"
  | some (.obj fields) =>
    match fields.lookup "network_policies" with
    | some (.obj policies) =>
      let filtered := withoutProviderComposedPolicies policies
      if filtered.length = policies.length then .ok policy
      else .ok (yaml.stringify (.obj (setOwn fields "network_policies" (.obj filtered))))
    | _ => .ok policy
  | some _ => .ok policy

/-! ## Merging -/

def emptyPolicy : String := "version: 1\n\nnetwork_policies:\n"

def normalizedPolicy (yaml : Yaml) (currentPolicy invalid : String) : Except String String := do
  let parsed := parseCurrentPolicyOrEmpty yaml currentPolicy
  require (¬(jsTrim currentPolicy ≠ "" ∧ parsed = "")) invalid
  stripProviderComposedPolicies yaml parsed

def presetPoliciesOf (yaml : Yaml) (presetEntries : String) : Option (List (String × Json)) :=
  ((yaml.parse ("network_policies:\n" ++ presetEntries)).filter isObject).bind fun document =>
    presetPolicyMap (document.get? "network_policies")

def parsePresetEntries (yaml : Yaml) (presetEntries invalid : String) :
    Except String (List (String × Json)) :=
  match presetPoliciesOf yaml presetEntries with
  | some policies => .ok policies
  | none => .error invalid

def parseCurrent (yaml : Yaml) (normalized invalid : String) :
    Except String (List (String × Json)) :=
  match yaml.parse normalized with
  | some (.obj fields) => .ok fields
  | _ => .error invalid

/-- `Number(version) || 1`, for a version that was validated. -/
def versionOf (version : Option Json) : ℚ :=
  match version with
  | some (.num q) => if q = 0 then 1 else q
  | _ => 1

def mergedPolicies (existing : Option Json) (preset : List (String × Json)) :
    List (String × Json) :=
  match existing with
  | some (.obj policies) => spread policies preset
  | _ => preset

/-- The other sections are assigned in order, and `network_policies` last. -/
def mergeDocument (current preset : List (String × Json)) : List (String × Json) :=
  let others := current.filter fun entry => entry.1 ≠ "version" ∧ entry.1 ≠ "network_policies"
  assignKey (assignAll [("version", .num (versionOf (current.lookup "version")))] others)
    "network_policies" (.obj (mergedPolicies (current.lookup "network_policies") preset))

def mergePresetIntoPolicy (yaml : Yaml) (currentPolicy presetEntries : String) :
    Except String String := do
  let normalized ← normalizedPolicy yaml currentPolicy
    ("Cannot merge policy preset: the current policy is not a valid YAML mapping. " ++
      "Re-read the base policy and try again; no policy changes were made.")
  if presetEntries = "" then
    pure (if normalized = "" then emptyPolicy else normalized)
  else
    let policies ← parsePresetEntries yaml presetEntries
      ("Cannot merge policy preset: preset network_policies entries must be a valid YAML " ++
        "mapping. Check the preset file and try again; no policy changes were made.")
    let preset := withoutProviderComposedPolicies policies
    if normalized = "" then
      pure (yaml.stringify (.obj [("version", .num 1), ("network_policies", .obj preset)]))
    else
      let current ← parseCurrent yaml normalized
        ("Cannot merge policy preset: the normalized current policy could not be parsed. " ++
          "Re-read the base policy and try again; no policy changes were made.")
      pure (yaml.stringify (.obj (mergeDocument current preset)))

inductive PresetPolicyState where
  | absent
  | drift
  | isMatch
  deriving DecidableEq

/-- The entry of the preset is in the policy as it is in the preset. -/
def hasEntry (current : List (String × Json)) (entry : String × Json) : Bool :=
  match current.lookup entry.1 with
  | some value => isDeepStrictEqual value entry.2
  | none => false

def classifyEntries (current : Option Json) (expected : List (String × Json)) : PresetPolicyState :=
  match current with
  | some (.obj current) =>
    if expected.any fun entry => (current.lookup entry.1).isSome then
      if expected.all (hasEntry current) then .isMatch else .drift
    else .absent
  | _ => .absent

def classifyPresetEntries (yaml : Yaml) (currentPolicy presetEntries : String) :
    PresetPolicyState :=
  match yaml.parse currentPolicy, yaml.parse ("network_policies:\n" ++ presetEntries) with
  | some current, some preset =>
    match preset.get? "network_policies" with
    | some (.obj expected) =>
      if expected = [] then .drift else classifyEntries (current.get? "network_policies") expected
    | _ => .drift
  | _, _ => .drift

def policyOf (yaml : Yaml) (currentPolicy : String) : List (String × Json) :=
  match yaml.parse (parseCurrentPolicyOrEmpty yaml currentPolicy) with
  | some (.obj fields) => fields
  | _ => []

def withoutComposed (policy : List (String × Json)) : List (String × Json) :=
  match policy.lookup "network_policies" with
  | some (.obj policies) =>
    setOwn policy "network_policies" (.obj (withoutProviderComposedPolicies policies))
  | _ => policy

section Current

variable {yaml : Yaml} {currentPolicy : String}

lemma parse_body {body : String} (h : parseOpenShellPolicy yaml currentPolicy = some body) :
    body ≠ "" ∧ ∃ fields, yaml.parse body = some (.obj fields) ∧ hasValidFields fields := by
  unfold parseOpenShellPolicy at h
  simp only at h
  split at h
  · cases h
  next hne =>
  split at h
  · next fields hparse =>
    split at h
    · next hvalid =>
      obtain rfl := Option.some.inj h
      simp only [Bool.and_eq_true] at hvalid; exact ⟨hne, fields, hparse, hvalid.1⟩
    · cases h
  · cases h

lemma keyed_policyOf (hyaml : yaml.Lawful) (currentPolicy : String) :
    Keyed (.obj (policyOf yaml currentPolicy)) := by
  unfold policyOf
  split
  · next fields hparse => exact hyaml.keyed _ _ hparse
  · exact .obj nodup_nil (by simp)

lemma withoutComposed_same {policy policies : List (String × Json)}
    (h : (policy.map (·.1)).Nodup) (hpolicies : policy.lookup "network_policies" = some (.obj policies))
    (hlength : (withoutProviderComposedPolicies policies).length = policies.length) :
    withoutComposed policy = policy := by
  have hsame : withoutProviderComposedPolicies policies = policies :=
    filter_eq_self.mpr (length_filter_eq_length_iff.mp hlength)
  unfold withoutComposed
  rw [hpolicies]; simp only [hsame]; exact setOwn_same h hpolicies

lemma normalizedPolicy_spec (hyaml : yaml.Lawful)
    (hreads : yaml.ReadsBack (.obj (withoutComposed (policyOf yaml currentPolicy))))
    {invalid normalized : String}
    (h : normalizedPolicy yaml currentPolicy invalid = .ok normalized) :
    normalized = "" ∧ policyOf yaml currentPolicy = [] ∨
      normalized ≠ "" ∧
        yaml.parse normalized = some (.obj (withoutComposed (policyOf yaml currentPolicy))) := by
  obtain ⟨-, h⟩ := require_bind_inv h
  have hkeyed := keyed_policyOf hyaml currentPolicy
  cases hbody : parseOpenShellPolicy yaml currentPolicy with
  | none =>
    have hempty : parseCurrentPolicyOrEmpty yaml currentPolicy = "" := by
      rw [parseCurrentPolicyOrEmpty, hbody]; rfl
    rw [hempty, stripProviderComposedPolicies, hyaml.empty] at h
    refine .inl ⟨(Except.ok.inj h).symm, ?_⟩
    rw [policyOf, hempty, hyaml.empty]
  | some body =>
    obtain ⟨hne, fields, hparse, -⟩ := parse_body hbody
    have hcurrent : parseCurrentPolicyOrEmpty yaml currentPolicy = body := by
      rw [parseCurrentPolicyOrEmpty, hbody]; rfl
    have hpolicy : policyOf yaml currentPolicy = fields := by
      rw [policyOf, hcurrent, hparse]
    rw [hcurrent, stripProviderComposedPolicies, hparse] at h
    simp only at h
    rw [hpolicy] at hreads hkeyed ⊢
    right
    split at h
    · next policies hpolicies =>
      split at h
      · next hlength =>
        cases h
        rw [withoutComposed_same hkeyed.keys_nodup hpolicies hlength]; exact ⟨hne, hparse⟩
      · cases h
        have hstripped : withoutComposed fields =
            setOwn fields "network_policies" (.obj (withoutProviderComposedPolicies policies)) := by
          rw [withoutComposed, hpolicies]
        rw [hstripped] at hreads ⊢
        refine ⟨fun hempty => ?_, hreads⟩
        rw [Yaml.ReadsBack, hempty, hyaml.empty] at hreads; cases hreads
    · next hother =>
      cases h
      refine ⟨hne, ?_⟩
      rw [withoutComposed]
      split
      · next policies hpolicies => exact absurd hpolicies (hother policies)
      · exact hparse

end Current

/-- The sections that are copied: `__proto__` cannot be assigned. -/
def otherSections (policy : List (String × Json)) : List (String × Json) :=
  policy.filter fun entry =>
    entry.1 ≠ "version" ∧ entry.1 ≠ "network_policies" ∧ entry.1 ≠ "__proto__"

section Merged

variable {current preset : List (String × Json)}

lemma key_of_mem_otherSections {policy : List (String × Json)} {kv : String × Json}
    (h : kv ∈ otherSections policy) :
    kv.1 ≠ "version" ∧ kv.1 ≠ "network_policies" ∧ kv.1 ≠ "__proto__" := by
  simpa using (mem_filter.mp h).2

lemma plainKeys_sections (h : (current.map (·.1)).Nodup) (version : Json) :
    PlainKeys ([("version", version)] ++ otherSections current) := by
  refine ⟨?_, fun kv hkv => ?_⟩
  · rw [map_append, map_cons, map_nil, singleton_append, nodup_cons]
    refine ⟨fun hmem => ?_, h.sublist (filter_sublist.map _)⟩
    obtain ⟨kv, hkv, heq⟩ := mem_map.mp hmem
    exact (key_of_mem_otherSections hkv).1 heq
  · rcases mem_append.mp hkv with hversion | hother
    · rw [mem_singleton.mp hversion]; simp
    · exact (key_of_mem_otherSections hother).2.2

lemma lookup_policies_sections (current : List (String × Json)) (version : Json) :
    ([("version", version)] ++ otherSections current).lookup "network_policies" = none := by
  cases hfound : ([("version", version)] ++ otherSections current).lookup "network_policies" with
  | none => rfl
  | some value =>
    rcases mem_append.mp (mem_of_lookup hfound) with hversion | hother
    · simp at hversion
    · exact absurd rfl (key_of_mem_otherSections hother).2.1

lemma mergeDocument_eq (h : (current.map (·.1)).Nodup) :
    mergeDocument current preset =
      ("version", .num (versionOf (current.lookup "version"))) :: otherSections current ++
        [("network_policies", .obj (mergedPolicies (current.lookup "network_policies") preset))] := by
  have hothers : (current.filter fun entry => entry.1 ≠ "version" ∧ entry.1 ≠ "network_policies").filter
      (fun kv => kv.1 ≠ "__proto__") = otherSections current := by
    rw [filter_filter, otherSections]
    refine filter_congr fun entry _ => ?_
    rw [← Bool.decide_and]; exact decide_eq_decide.mpr (by tauto)
  unfold mergeDocument
  simp only
  rw [assignAll_plain, hothers, assignAll_append (plainKeys_sections h _), assignKey,
    if_neg (by decide), setOwn, lookup_policies_sections]
  rfl

lemma nodup_mergeDocument (h : (current.map (·.1)).Nodup) :
    ((mergeDocument current preset).map (·.1)).Nodup := by
  have hplain := plainKeys_sections h (.num (versionOf (current.lookup "version")))
  rw [mergeDocument_eq h, map_append]
  refine List.Nodup.append hplain.nodup (nodup_singleton _)
    (disjoint_singleton.mpr fun hmem => ?_)
  obtain ⟨value, hvalue⟩ := lookup_of_mem_keys hmem
  have hnone := lookup_policies_sections current
    (.num (versionOf (current.lookup "version")))
  rw [singleton_append] at hnone
  rw [hnone] at hvalue; cases hvalue

lemma otherSections_mergeDocument (h : (current.map (·.1)).Nodup) :
    otherSections (mergeDocument current preset) = otherSections current := by
  have hself : otherSections (otherSections current) = otherSections current :=
    filter_eq_self.mpr fun kv hkv => by simpa using key_of_mem_otherSections hkv
  rw [mergeDocument_eq h]
  unfold otherSections at hself ⊢
  rw [filter_append, filter_cons_of_neg (by simp), hself,
    filter_cons_of_neg (by simp), filter_nil, append_nil]

lemma lookup_otherSections (policy : List (String × Json)) {key : String}
    (hkey : key ∉ ["version", "network_policies", "__proto__"]) :
    (otherSections policy).lookup key = policy.lookup key := by
  have hfilter := lookup_filter_key (fun k => decide (k ≠ "version" ∧ k ≠ "network_policies" ∧
    k ≠ "__proto__")) policy key
  simp only [mem_cons, not_mem_nil, or_false, not_or] at hkey
  rw [otherSections, hfilter, if_pos (by simpa using hkey)]

lemma lookup_mergeDocument (h : (current.map (·.1)).Nodup) {key : String}
    (hkey : key ∉ ["version", "network_policies", "__proto__"]) :
    (mergeDocument current preset).lookup key = current.lookup key := by
  have hne : key ≠ "version" ∧ key ≠ "network_policies" := by
    simp only [mem_cons, not_mem_nil, or_false, not_or] at hkey
    exact ⟨hkey.1, hkey.2.1⟩
  rw [mergeDocument_eq h, lookup_append, lookup_cons_if, if_neg hne.1,
    lookup_otherSections current hkey, lookup_cons_if, if_neg hne.2]
  simp

lemma lookup_version_mergeDocument (h : (current.map (·.1)).Nodup) :
    (mergeDocument current preset).lookup "version" =
      some (.num (versionOf (current.lookup "version"))) := by
  rw [mergeDocument_eq h, cons_append, lookup_cons_if, if_pos rfl]

lemma lookup_policies_mergeDocument (h : (current.map (·.1)).Nodup) :
    (mergeDocument current preset).lookup "network_policies" =
      some (.obj (mergedPolicies (current.lookup "network_policies") preset)) := by
  have hnone : (otherSections current).lookup "network_policies" = none := by
    rw [otherSections, lookup_filter_key (fun k => decide (k ≠ "version" ∧ k ≠ "network_policies" ∧
      k ≠ "__proto__")), if_neg (by simp)]
  rw [mergeDocument_eq h, cons_append, lookup_cons_if, if_neg (by decide),
    lookup_append, hnone]
  simp

lemma lookup_mergedPolicies (existing : Option Json) (h : (preset.map (·.1)).Nodup)
    (key : String) :
    (mergedPolicies existing preset).lookup key =
      (preset.lookup key).or (existing.bind (·.get? key)) := by
  unfold mergedPolicies
  split
  · next policies => exact lookup_spread h policies key
  next hother =>
  cases existing with
  | none => simp
  | some value =>
    cases value with
    | obj policies => exact absurd rfl (hother policies)
    | _ => simp [get?]

lemma nodup_mergedPolicies {existing : Option Json} (h : (preset.map (·.1)).Nodup)
    (hexisting : ∀ policies, existing = some (.obj policies) → (policies.map (·.1)).Nodup) :
    ((mergedPolicies existing preset).map (·.1)).Nodup := by
  unfold mergedPolicies
  split
  · next policies => exact nodup_spread (hexisting policies rfl) preset
  · exact h

lemma versionOf_num (version : Option Json) :
    versionOf (some (.num (versionOf version))) = versionOf version := by
  have hne : versionOf version ≠ 0 := by
    unfold versionOf
    split
    · split
      · decide
      · assumption
    · decide
  exact if_neg hne

lemma mergeDocument_again (h : (current.map (·.1)).Nodup) (hpreset : (preset.map (·.1)).Nodup)
    (hpolicies : ∀ policies, current.lookup "network_policies" = some (.obj policies) →
      (policies.map (·.1)).Nodup) :
    mergeDocument (mergeDocument current preset) preset = mergeDocument current preset := by
  have hmerged := nodup_mergedPolicies hpreset hpolicies
  have hspread : mergedPolicies
      (some (.obj (mergedPolicies (current.lookup "network_policies") preset))) preset =
        mergedPolicies (current.lookup "network_policies") preset := by
    refine spread_same hmerged fun kv hkv => ?_
    rw [lookup_mergedPolicies _ hpreset, lookup_of_mem hpreset hkv]; rfl
  rw [mergeDocument_eq (nodup_mergeDocument h), lookup_version_mergeDocument h,
    lookup_policies_mergeDocument h, versionOf_num, hspread, otherSections_mergeDocument h,
    ← mergeDocument_eq h]

end Merged

/-! ## Merging texts -/

section Texts

variable {yaml : Yaml} {currentPolicy presetEntries result : String}
  {policies : List (String × Json)}

lemma lookup_withoutComposed (policy : List (String × Json)) {key : String}
    (hkey : key ≠ "network_policies") :
    (withoutComposed policy).lookup key = policy.lookup key := by
  unfold withoutComposed
  split
  · rw [lookup_setOwn, if_neg hkey]
  · rfl

lemma policies_withoutComposed (policy : List (String × Json)) (key : String) :
    ((withoutComposed policy).lookup "network_policies").bind (·.get? key) =
      if isProviderComposed key then none
      else (policy.lookup "network_policies").bind (·.get? key) := by
  unfold withoutComposed
  split
  · next policies hpolicies =>
    have hfilter := lookup_filter_key (fun name => !isProviderComposed name) policies key
    rw [lookup_setOwn, if_pos rfl, hpolicies, Option.bind_some, Option.bind_some, get?_obj,
      get?_obj, withoutProviderComposedPolicies, hfilter]
    cases isProviderComposed key <;> simp
  · next hother =>
    cases hpolicies : policy.lookup "network_policies" with
    | none => simp
    | some value =>
      cases value with
      | obj policies => exact absurd hpolicies (hother policies)
      | _ => simp [get?]

lemma keyed_withoutComposed {policy : List (String × Json)} (h : Keyed (.obj policy)) :
    Keyed (.obj (withoutComposed policy)) := by
  unfold withoutComposed
  split
  · next policies hpolicies => exact h.setOwn _ ((h.lookup hpolicies).filter _)
  · exact h

lemma presetPoliciesOf_spec (h : presetPoliciesOf yaml presetEntries = some policies) :
    policies ≠ [] ∧ ∃ document, yaml.parse ("network_policies:\n" ++ presetEntries) =
      some document ∧ document.get? "network_policies" = some (.obj policies) := by
  obtain ⟨document, hdocument, hmap⟩ := Option.bind_eq_some_iff.mp h
  unfold presetPolicyMap at hmap
  split at hmap
  · next fields hfields =>
    split at hmap
    · next hvalid =>
      cases hmap
      exact ⟨hvalid.1, document, (Option.filter_eq_some_iff.mp hdocument).1, hfields⟩
    · cases hmap
  · cases hmap

lemma presetEntries_ne_empty (hyaml : yaml.Lawful)
    (h : presetPoliciesOf yaml presetEntries = some policies) : presetEntries ≠ "" := by
  rintro rfl
  obtain ⟨-, document, hparse, hget⟩ := presetPoliciesOf_spec h
  rw [String.append_empty, hyaml.bare] at hparse
  cases hparse; simp at hget

lemma keyed_presetPolicies (hyaml : yaml.Lawful)
    (h : presetPoliciesOf yaml presetEntries = some policies) : Keyed (.obj policies) := by
  obtain ⟨-, document, hparse, hget⟩ := presetPoliciesOf_spec h
  have hkeyed := hyaml.keyed _ _ hparse
  cases document with
  | obj fields => exact hkeyed.lookup hget
  | _ => simp [get?] at hget

def mergedPolicy (yaml : Yaml) (currentPolicy : String) (policies : List (String × Json)) :
    List (String × Json) :=
  mergeDocument (withoutComposed (policyOf yaml currentPolicy))
    (withoutProviderComposedPolicies policies)

lemma mergePresetIntoPolicy_eq (hyaml : yaml.Lawful)
    (hreads : yaml.ReadsBack (.obj (withoutComposed (policyOf yaml currentPolicy))))
    (hpolicies : presetPoliciesOf yaml presetEntries = some policies)
    (h : mergePresetIntoPolicy yaml currentPolicy presetEntries = .ok result) :
    result = yaml.stringify (.obj (mergedPolicy yaml currentPolicy policies)) := by
  obtain ⟨normalized, hnormalized, h⟩ := except_bind_inv h
  rw [if_neg (presetEntries_ne_empty hyaml hpolicies)] at h
  obtain ⟨read, hread, h⟩ := except_bind_inv h
  rw [parsePresetEntries, hpolicies] at hread
  cases hread
  rcases normalizedPolicy_spec hyaml hreads hnormalized with ⟨hempty, hnone⟩ | ⟨hne, hparse⟩
  · rw [if_pos hempty] at h
    cases h
    rw [mergedPolicy, hnone]; rfl
  · rw [if_neg hne] at h
    obtain ⟨current, hcurrent, h⟩ := except_bind_inv h
    rw [parseCurrent, hparse] at hcurrent
    cases hcurrent; exact (Except.ok.inj h).symm

lemma lookup_entries (hyaml : yaml.Lawful)
    (hpolicies : presetPoliciesOf yaml presetEntries = some policies) (key : String) :
    (mergedPolicies ((withoutComposed (policyOf yaml currentPolicy)).lookup "network_policies")
      (withoutProviderComposedPolicies policies)).lookup key =
      if isProviderComposed key then none
      else (policies.lookup key).or
        (((policyOf yaml currentPolicy).lookup "network_policies").bind (·.get? key)) := by
  have hfilter := lookup_filter_key (fun name => !isProviderComposed name) policies key
  have hnodup : ((withoutProviderComposedPolicies policies).map (·.1)).Nodup :=
    ((keyed_presetPolicies hyaml hpolicies).filter _).keys_nodup
  rw [lookup_mergedPolicies _ hnodup, policies_withoutComposed, withoutProviderComposedPolicies,
    hfilter]
  cases isProviderComposed key <;> simp

lemma classify_merged (hyaml : yaml.Lawful)
    (hpolicies : presetPoliciesOf yaml presetEntries = some policies)
    {text : String} (hparse : yaml.parse text =
      some (.obj (mergedPolicy yaml currentPolicy policies))) :
    classifyPresetEntries yaml text presetEntries = .isMatch ↔
      ∀ entry ∈ policies, isProviderComposed entry.1 = false := by
  obtain ⟨hne, document, hdocument, hget⟩ := presetPoliciesOf_spec hpolicies
  have hkeyed := keyed_presetPolicies hyaml hpolicies
  have hnodup := (keyed_withoutComposed (keyed_policyOf hyaml currentPolicy)).keys_nodup
  have hall : ∀ entry ∈ policies, (hasEntry (mergedPolicies ((withoutComposed
      (policyOf yaml currentPolicy)).lookup "network_policies")
      (withoutProviderComposedPolicies policies)) entry ↔
        isProviderComposed entry.1 = false) := by
    intro entry hentry
    rw [hasEntry, lookup_entries hyaml hpolicies, lookup_of_mem hkeyed.keys_nodup hentry]
    cases isProviderComposed entry.1 with
    | true => simp
    | false => simp [isDeepStrictEqual_refl (hkeyed.mem hentry)]
  unfold classifyPresetEntries
  rw [hparse, hdocument]
  simp only [hget]
  rw [if_neg hne, get?_obj, mergedPolicy, lookup_policies_mergeDocument hnodup, classifyEntries]
  constructor
  · intro hstate
    split at hstate
    · split at hstate
      · next hevery =>
        intro entry hentry
        exact (hall entry hentry).mp (all_eq_true.mp hevery entry hentry)
      · cases hstate
    · cases hstate
  · intro hnone
    obtain ⟨entry, rest, hcons⟩ := exists_cons_of_ne_nil hne
    have hentry : entry ∈ policies := by simp [hcons]
    have hany : (policies.any fun entry => ((mergedPolicies ((withoutComposed
        (policyOf yaml currentPolicy)).lookup "network_policies")
        (withoutProviderComposedPolicies policies)).lookup entry.1).isSome) := by
      refine any_eq_true.mpr ⟨entry, hentry, ?_⟩
      rw [lookup_entries hyaml hpolicies, lookup_of_mem hkeyed.keys_nodup hentry,
        hnone entry hentry]
      simp
    rw [if_pos hany, if_pos]
    exact all_eq_true.mpr fun entry hentry => (hall entry hentry).mpr (hnone entry hentry)

lemma hasValidFields_policyOf (hyaml : yaml.Lawful) (currentPolicy : String) :
    policyOf yaml currentPolicy = [] ∨ hasValidFields (policyOf yaml currentPolicy) := by
  cases hbody : parseOpenShellPolicy yaml currentPolicy with
  | none =>
    left
    rw [policyOf, parseCurrentPolicyOrEmpty, hbody, Option.getD_none, hyaml.empty]
  | some body =>
    right
    obtain ⟨-, fields, hparse, hvalid⟩ := parse_body hbody
    have hpolicy : policyOf yaml currentPolicy = fields := by
      rw [policyOf, parseCurrentPolicyOrEmpty, hbody, Option.getD_some, hparse]
    rw [hpolicy]; exact hvalid

lemma versionOf_valid {policy : List (String × Json)} (h : policy = [] ∨ hasValidFields policy) :
    (versionOf (policy.lookup "version")).den = 1 ∧ 1 ≤ versionOf (policy.lookup "version") := by
  rcases h with rfl | hvalid
  · decide
  simp only [hasValidFields, Bool.and_eq_true] at hvalid
  have hversion := hvalid.1
  cases hlookup : policy.lookup "version" with
  | none => decide
  | some version =>
  rw [hlookup] at hversion
  cases version with
  | num q =>
    simp only [Bool.and_eq_true, decide_eq_true_eq] at hversion
    have hne : q ≠ 0 := by
      rintro rfl; exact absurd hversion.2 (by decide)
    rw [versionOf, if_neg hne]; exact hversion
  | _ => cases hversion

lemma parse_merged {text : String} {merged : List (String × Json)} (hyaml : yaml.Lawful)
    (hseparator : afterSeparator text = none) (hparse : yaml.parse (jsTrim text) = some (.obj merged))
    (hvalid : hasValidFields merged) (hpolicy : (merged.lookup "version").isSome ∨
      (merged.lookup "network_policies").isSome) :
    parseOpenShellPolicy yaml text = some (jsTrim text) := by
  have hne : jsTrim text ≠ "" := by
    intro hempty
    rw [hempty, hyaml.empty] at hparse; cases hparse
  unfold parseOpenShellPolicy
  simp only [hseparator, Option.getD_none]
  rw [if_neg hne, hparse]
  refine if_pos ?_
  rw [hvalid]
  rcases hpolicy with hversion | hpolicies
  · rw [hversion]; rfl
  · rw [hpolicies, Bool.or_true]; rfl

lemma hasValidFields_merged (hyaml : yaml.Lawful) (policies : List (String × Json)) :
    hasValidFields (mergedPolicy yaml currentPolicy policies) := by
  have hnodup := (keyed_withoutComposed (keyed_policyOf hyaml currentPolicy)).keys_nodup
  obtain ⟨hden, hpositive⟩ := versionOf_valid (hasValidFields_policyOf hyaml currentPolicy)
  rw [hasValidFields, mergedPolicy, lookup_version_mergeDocument hnodup,
    lookup_policies_mergeDocument hnodup, lookup_withoutComposed _ (by decide)]
  simp [hden, hpositive, isObject]

lemma filter_merged (hyaml : yaml.Lawful)
    (hpolicies : presetPoliciesOf yaml presetEntries = some policies) :
    (withoutProviderComposedPolicies (mergedPolicies ((withoutComposed
      (policyOf yaml currentPolicy)).lookup "network_policies")
      (withoutProviderComposedPolicies policies))).length =
    (mergedPolicies ((withoutComposed (policyOf yaml currentPolicy)).lookup "network_policies")
      (withoutProviderComposedPolicies policies)).length := by
  refine length_filter_eq_length_iff.mpr fun entry hentry => ?_
  obtain ⟨value, hvalue⟩ := lookup_of_mem_keys (mem_map_of_mem (f := (·.1)) hentry)
  rw [lookup_entries hyaml hpolicies] at hvalue
  cases hcomposed : isProviderComposed entry.1 with
  | true => simp [hcomposed] at hvalue
  | false => rfl

lemma mergePresetIntoPolicy_again (hyaml : yaml.Lawful)
    (hpolicies : presetPoliciesOf yaml presetEntries = some policies)
    (hseparator : afterSeparator result = none)
    (hparse : yaml.parse (jsTrim result) =
      some (.obj (mergedPolicy yaml currentPolicy policies))) :
    mergePresetIntoPolicy yaml result presetEntries =
      .ok (yaml.stringify (.obj (mergedPolicy yaml currentPolicy policies))) := by
  have hkeyed := keyed_withoutComposed (keyed_policyOf hyaml currentPolicy)
  have hnodup := hkeyed.keys_nodup
  have hversion : ((mergedPolicy yaml currentPolicy policies).lookup "version").isSome := by
    rw [mergedPolicy, lookup_version_mergeDocument hnodup]; rfl
  have hbody := parse_merged hyaml hseparator hparse
    (hasValidFields_merged hyaml policies) (.inl hversion)
  have hcurrent : parseCurrentPolicyOrEmpty yaml result = jsTrim result := by
    rw [parseCurrentPolicyOrEmpty, hbody, Option.getD_some]
  obtain ⟨hne, -⟩ := parse_body hbody
  have hstrip : stripProviderComposedPolicies yaml (jsTrim result) = .ok (jsTrim result) := by
    unfold stripProviderComposedPolicies
    rw [hparse]
    simp only
    rw [mergedPolicy, lookup_policies_mergeDocument hnodup]
    exact if_pos (filter_merged hyaml hpolicies)
  have hagain : mergeDocument (mergedPolicy yaml currentPolicy policies)
      (withoutProviderComposedPolicies policies) = mergedPolicy yaml currentPolicy policies :=
    mergeDocument_again hnodup ((keyed_presetPolicies hyaml hpolicies).filter _).keys_nodup
      fun existing hexisting => (hkeyed.lookup hexisting).keys_nodup
  refine except_bind_ok (a := jsTrim result) ?_ ?_
  · unfold normalizedPolicy
    rw [hcurrent]; exact require_bind_ok (fun hboth => hne hboth.2) hstrip
  · rw [if_neg (presetEntries_ne_empty hyaml hpolicies)]
    refine except_bind_ok (a := policies) (by rw [parsePresetEntries, hpolicies]) ?_
    rw [if_neg hne]
    refine except_bind_ok (a := mergedPolicy yaml currentPolicy policies) ?_ ?_
    · rw [parseCurrent, hparse]
    · rw [hagain]; rfl

/-- A merge keeps the other sections and the version, has the entries of the preset and those
of the policy that are not in the preset, but none that a provider composes, is the preset's
if no provider composes any of its entries, and is its own merge. -/
theorem mergePresetIntoPolicy_law (hyaml : yaml.Lawful)
    (hpolicies : presetPoliciesOf yaml presetEntries = some policies)
    (hstripped : yaml.ReadsBack (.obj (withoutComposed (policyOf yaml currentPolicy))))
    (hmerged : yaml.ReadsBack (.obj (mergedPolicy yaml currentPolicy policies)))
    (h : mergePresetIntoPolicy yaml currentPolicy presetEntries = .ok result) :
    ∃ merged entries, yaml.parse result = some (.obj merged) ∧
      (∀ key, key ∉ ["version", "network_policies", "__proto__"] →
        merged.lookup key = (policyOf yaml currentPolicy).lookup key) ∧
      merged.lookup "version" =
        some (.num (versionOf ((policyOf yaml currentPolicy).lookup "version"))) ∧
      merged.lookup "network_policies" = some (.obj entries) ∧
      (∀ key, entries.lookup key =
        if isProviderComposed key then none
        else (policies.lookup key).or
          (((policyOf yaml currentPolicy).lookup "network_policies").bind (·.get? key))) ∧
      (classifyPresetEntries yaml result presetEntries = .isMatch ↔
        ∀ entry ∈ policies, isProviderComposed entry.1 = false) ∧
      (afterSeparator result = none → yaml.parse (jsTrim result) = yaml.parse result →
        mergePresetIntoPolicy yaml result presetEntries = .ok result) := by
  have hresult := mergePresetIntoPolicy_eq hyaml hstripped hpolicies h
  have hparse : yaml.parse result = some (.obj (mergedPolicy yaml currentPolicy policies)) := by
    rw [hresult]; exact hmerged
  have hnodup := (keyed_withoutComposed (keyed_policyOf hyaml currentPolicy)).keys_nodup
  refine ⟨_, _, hparse, fun key hkey => ?_, ?_, lookup_policies_mergeDocument hnodup,
    lookup_entries hyaml hpolicies, classify_merged hyaml hpolicies hparse,
    fun hseparator htrimmed => ?_⟩
  · have hne : key ≠ "network_policies" := by
      rintro rfl; simp at hkey
    rw [mergedPolicy, lookup_mergeDocument hnodup hkey, lookup_withoutComposed _ hne]
  · rw [mergedPolicy, lookup_version_mergeDocument hnodup, lookup_withoutComposed _ (by decide)]
  · rw [mergePresetIntoPolicy_again hyaml hpolicies hseparator (htrimmed.trans hparse), ← hresult]

end Texts

/-- A preset `web` is merged into a policy with an entry `git` and one of a provider. -/
def webYaml : Yaml := yamlOf
  [("process: {}\nnetwork_policies:\n  git: {}\n  _provider_x: {}",
      .obj [("process", .obj []),
        ("network_policies", .obj [("git", .obj []), ("_provider_x", .obj [])])]),
    ("process: {}\nnetwork_policies:\n  git: {}\n",
      .obj [("process", .obj []), ("network_policies", .obj [("git", .obj [])])]),
    ("network_policies:\n  web: {}", .obj [("network_policies", .obj [("web", .obj [])])]),
    ("version: 1\nprocess: {}\nnetwork_policies:\n  git: {}\n  web: {}\n",
      .obj [("version", .num 1), ("process", .obj []),
        ("network_policies", .obj [("git", .obj []), ("web", .obj [])])]),
    ("version: 1\nprocess: {}\nnetwork_policies:\n  git: {}\n  web: {}",
      .obj [("version", .num 1), ("process", .obj []),
        ("network_policies", .obj [("git", .obj []), ("web", .obj [])])])]

theorem mergePresetIntoPolicy_law_web :
    classifyPresetEntries webYaml
      "version: 1\nprocess: {}\nnetwork_policies:\n  git: {}\n  web: {}\n" "  web: {}" = .isMatch ∧
    mergePresetIntoPolicy webYaml
      "version: 1\nprocess: {}\nnetwork_policies:\n  git: {}\n  web: {}\n" "  web: {}" =
        .ok "version: 1\nprocess: {}\nnetwork_policies:\n  git: {}\n  web: {}\n" := by
  have hlawful : webYaml.Lawful := yamlOf_lawful (by simp)
  have hmerge : mergePresetIntoPolicy webYaml
      "process: {}\nnetwork_policies:\n  git: {}\n  _provider_x: {}" "  web: {}" =
        .ok "version: 1\nprocess: {}\nnetwork_policies:\n  git: {}\n  web: {}\n" := rfl
  have hpolicies : presetPoliciesOf webYaml "  web: {}" = some [("web", .obj [])] := rfl
  have hstripped : withoutComposed (policyOf webYaml
      "process: {}\nnetwork_policies:\n  git: {}\n  _provider_x: {}") =
        [("process", .obj []), ("network_policies", .obj [("git", .obj [])])] := rfl
  have hmerged : mergedPolicy webYaml
      "process: {}\nnetwork_policies:\n  git: {}\n  _provider_x: {}" [("web", .obj [])] =
        [("version", .num 1), ("process", .obj []),
          ("network_policies", .obj [("git", .obj []), ("web", .obj [])])] := rfl
  obtain ⟨merged, entries, -, -, -, -, -, hmatch, hagain⟩ :=
    mergePresetIntoPolicy_law hlawful hpolicies (by rw [hstripped]; rfl) (by rw [hmerged]; rfl)
      hmerge
  exact ⟨hmatch.mpr (by decide), hagain rfl rfl⟩

/-- A policy and a preset, each with one entry of a provider. -/
def composedYaml : Yaml := yamlOf
  [("version: 1\nnetwork_policies:\n  _provider_a: {}",
      .obj [("version", .num 1), ("network_policies", .obj [("_provider_a", .obj [])])]),
    ("network_policies:\n  _provider_b: {}",
      .obj [("network_policies", .obj [("_provider_b", .obj [])])]),
    ("version: 1\nnetwork_policies: {}\n",
      .obj [("version", .num 1), ("network_policies", .obj [])])]

/-- Neither entry is in the merged policy, and the preset is not recognised in it. -/
theorem mergePresetIntoPolicy_composed :
    composedYaml.Lawful ∧
    mergePresetIntoPolicy composedYaml "version: 1\nnetwork_policies:\n  _provider_a: {}"
      "  _provider_b: {}" = .ok "version: 1\nnetwork_policies: {}\n" ∧
    composedYaml.parse "version: 1\nnetwork_policies: {}\n" =
      some (.obj [("version", .num 1), ("network_policies", .obj [])]) ∧
    classifyPresetEntries composedYaml "version: 1\nnetwork_policies: {}\n" "  _provider_b: {}" =
      .absent := by
  exact ⟨yamlOf_lawful (by simp), rfl, rfl, rfl⟩

end NemoClaw.Policy
