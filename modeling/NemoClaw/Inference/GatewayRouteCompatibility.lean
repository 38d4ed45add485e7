import NemoClaw.Js.Text

/- Whether a sandbox can be given a route on a gateway that others share.

All sandboxes of a gateway share its providers: a provider has one credential, and a custom
one also one endpoint and one API family. A requested route is compared with every row of
the registry that is bound to the same gateway, but for the row of the sandbox itself. Rows
that differ in the provider or the model only are an advisory conflict.

What is proved:
  1. `admitted_coheres` — what an answer that admits a route says of each row.
  2. `Coherent.admitted` — the rows of a gateway that have one provider keep one identity.
  3. `checkGatewayRouteCompatibility_symm` — two complete routes conflict in the same way
     from both sides.

Correspondence (inference/gateway-route-compatibility.ts, onboard/gateway-binding.ts,
core/url-utils.ts ↔ Lean): functions keep their names; `rowConflicts` is the body of the
loop of `checkGatewayRouteCompatibility`. The URL parser is a parameter. A row has the
fields that are read here; the text of the error for an invalid binding is left out, since
it is caught.
-/
namespace NemoClaw.GatewayRoute

open Js List

/-! ## Endpoints -/

/-- An HTTP URL, as `new URL` parses it. -/
structure Url where
  protocol : String
  username : String
  password : String
  origin : String
  pathname : String
  href : String

/-- The URL class, as far as it is used. -/
structure UrlParser where
  parse : String → Option Url
  assignPathname : Url → String → String

/-- The protocol of an endpoint. -/
inductive EndpointFlavor where
  | anthropic
  | openai
  deriving DecidableEq

/-- The longest endpoint that is compared. -/
def maxCanonicalEndpointLength : ℕ := 2048

/-- The path without the first of the suffixes that it ends with. -/
def stripEndpointSuffix (pathname : String) : List String → String
  | [] => pathname
  | suffix :: rest =>
    if pathname = suffix then ""
    else if suffix.toList.isSuffixOf pathname.toList then
      String.ofList (pathname.toList.take (pathname.toList.length - suffix.toList.length))
    else stripEndpointSuffix pathname rest

/-- `replace(/\/+$/, "")`. -/
def withoutTrailingSlashes (text : String) : String :=
  String.ofList (text.toList.reverse.dropWhile (· = '/')).reverse

/-- The paths of an API that users put behind its base. -/
def endpointSuffixes : EndpointFlavor → List String
  | .anthropic => ["/v1/messages", "/v1/models", "/v1", "/messages", "/models"]
  | .openai => ["/responses", "/chat/completions", "/completions", "/models"]

/-- The base of an endpoint. -/
def normalizeProviderBaseUrl (urls : UrlParser) (value : String) (flavor : EndpointFlavor) :
    String :=
  let raw := jsTrim value
  if raw = "" then ""
  else match urls.parse raw with
    | none => withoutTrailingSlashes
        (String.ofList (raw.toList.takeWhile fun c => c ≠ '?' && c ≠ '#'))
    | some url =>
      let pathname := withoutTrailingSlashes
        (stripEndpointSuffix (withoutTrailingSlashes url.pathname) (endpointSuffixes flavor))
      let assigned := urls.assignPathname url (if pathname = "" then "/" else pathname)
      if assigned = "/" then url.origin else url.origin ++ assigned

/-- The endpoint as it is compared, if it is an HTTP URL without credentials. -/
def canonicalEndpoint (urls : UrlParser) (value : Option String) (flavor : EndpointFlavor) :
    Option String :=
  let raw := jsTrim (value.getD "")
  if raw = "" ∨ maxCanonicalEndpointLength < jsLength raw then none
  else match urls.parse raw with
    | none => none
    | some parsed =>
      if (parsed.protocol ≠ "http:" ∧ parsed.protocol ≠ "https:") ∨ parsed.username ≠ "" ∨
          parsed.password ≠ "" then none
      else some (normalizeProviderBaseUrl urls parsed.href flavor)

/-- The name of the gateway on the default port. -/
def baseGatewayName : String := "nemoclaw"

/-- The default port. -/
def defaultGatewayPort : ℕ := 8080

/-- The name of the gateway on a port. -/
def resolveGatewayName (port : ℕ) : String :=
  if port = defaultGatewayPort then baseGatewayName else baseGatewayName ++ "-" ++ toString port

/-- A port. -/
def isValidPersistedGatewayPort (value : ℚ) : Bool := value.den = 1 && 1 ≤ value && value ≤ 65535

/-- The text behind `nemoclaw-`. -/
def gatewaySuffix (gatewayName : String) : Option (List Char) :=
  let start := (baseGatewayName ++ "-").toList
  if start.isPrefixOf gatewayName.toList then some (gatewayName.toList.drop start.length) else none

/-- The port alternatives of `VALID_GATEWAY_NAME_RE`. -/
def isPortText : List Char → Bool
  | '6' :: '5' :: '5' :: '3' :: [d] => '0' ≤ d && d ≤ '5'
  | '6' :: '5' :: '5' :: c :: [d] => '0' ≤ c && c ≤ '2' && isDigit d
  | '6' :: '5' :: b :: [c, d] => '0' ≤ b && b ≤ '4' && isDigit c && isDigit d
  | '6' :: a :: [b, c, d] => '0' ≤ a && a ≤ '4' && isDigit b && isDigit c && isDigit d
  | first :: rest =>
    rest.all isDigit && ('1' ≤ first && first ≤ '9' && rest.length ≤ 3 ||
      '1' ≤ first && first ≤ '5' && rest.length = 4)
  | [] => false

/-- The port of a gateway's name, if the name is that of a port. -/
def resolveGatewayPortFromName (gatewayName : String) : Option ℕ :=
  if gatewayName = baseGatewayName then some defaultGatewayPort
  else (gatewaySuffix gatewayName).bind fun digits =>
    let port := natOfDigits digits
    if digits ≠ [] ∧ digits.all isDigit ∧ isValidPersistedGatewayPort port ∧
        resolveGatewayName port = gatewayName then some port
    else none

/-- The name is that of a gateway. -/
def isValidPersistedGatewayName (value : String) : Bool :=
  (value = baseGatewayName || (gatewaySuffix value).any isPortText) &&
    (resolveGatewayPortFromName value).isSome

/-! ## Rows -/

/-- The inference route of a sandbox, as far as it is recorded. -/
structure GatewayInferenceRoute where
  provider : Option String
  model : Option String
  endpointUrl : Option String
  preferredInferenceApi : Option String
  credentialEnv : Option String
  deriving DecidableEq

/-- A row of the registry. -/
structure SandboxEntry where
  name : String
  gatewayName : Option String
  gatewayPort : Option ℚ
  route : GatewayInferenceRoute
  deriving DecidableEq

/-- The gateway that a row is bound to; nothing if the binding is not valid. -/
def resolveSandboxGatewayName (sandbox : SandboxEntry) : Option String :=
  match sandbox.gatewayPort.filter isValidPersistedGatewayPort,
      sandbox.gatewayName.filter isValidPersistedGatewayName with
  | some port, _ => some (resolveGatewayName port.num.toNat)
  | none, some gatewayName => some gatewayName
  | none, none =>
    if sandbox.gatewayPort = none ∧ sandbox.gatewayName = none then some baseGatewayName else none

/-- In what two routes conflict. -/
inductive GatewayRouteConflictReason where
  | providerModel
  | customEndpoint
  | customApi
  | providerCredential
  | incompleteRoute
  | incompleteCustomRoute
  | invalidGatewayBinding
  deriving DecidableEq

/-- Whose route is at fault. -/
inductive ConflictScope where
  | requested
  | registered
  deriving DecidableEq

/-- A route's provider and model. -/
structure ConfiguredRoute where
  provider : String
  model : String
  deriving DecidableEq

/-- A sandbox that a route conflicts with. -/
structure GatewayRouteConflict where
  sandboxName : String
  reason : GatewayRouteConflictReason
  scope : ConflictScope
  recordedRoute : Option ConfiguredRoute
  deriving DecidableEq

/-- The answer of the check. -/
inductive GatewayRouteCompatibilityResult where
  | ok
  | conflicting (gatewayName : String) (sandboxName : Option String) (route : ConfiguredRoute)
    (conflicts : List GatewayRouteConflict)
  deriving DecidableEq

/-- The route that is asked for, and the rows it is checked against. -/
structure GatewayRouteCompatibilityRequest where
  gatewayName : String
  sandboxName : Option String
  route : GatewayInferenceRoute
  sandboxes : List SandboxEntry

/-- The providers whose endpoint is the user's. -/
def customRouteProviders : List String :=
  ["compatible-endpoint", "compatible-anthropic-endpoint", "llama-cpp-local"]

/-- The protocols that a route may name. -/
def supportedInferenceApis : List String :=
  ["openai-completions", "anthropic-messages", "openai-responses"]

/-- The string without blanks at its ends, unless it is empty. -/
def nonEmptyString (value : Option String) : Option String :=
  (value.map jsTrim).filter (· ≠ "")

/-- The provider and the model, if both are there. -/
def configuredRoute (route : GatewayInferenceRoute) : Option ConfiguredRoute :=
  match nonEmptyString route.provider, nonEmptyString route.model with
  | some provider, some model => some ⟨provider, model⟩
  | _, _ => none

/-- The protocol of a provider's endpoints. -/
def endpointFlavor (provider : String) : EndpointFlavor :=
  if provider = "compatible-anthropic-endpoint" then .anthropic else .openai

/-- The protocol of a route, if it is one of these. -/
def normalizedInferenceApi (value : Option String) : Option String :=
  (nonEmptyString value).filter (· ∈ supportedInferenceApis)

variable (urls : UrlParser)

/-- The endpoint of a route, as it is compared. -/
def routeEndpoint (provider : String) (route : GatewayInferenceRoute) : Option String :=
  (canonicalEndpoint urls route.endpointUrl (endpointFlavor provider)).filter (· ≠ "")

/-- Two routes to endpoints of the user have to have the same one. -/
def customRouteConflict (provider : String) (requested recorded : GatewayInferenceRoute) :
    Option GatewayRouteConflictReason :=
  match routeEndpoint urls provider requested, routeEndpoint urls provider recorded,
      normalizedInferenceApi requested.preferredInferenceApi,
      normalizedInferenceApi recorded.preferredInferenceApi with
  | some requestedEndpoint, some recordedEndpoint, some requestedApi, some recordedApi =>
    if requestedEndpoint ≠ recordedEndpoint then some .customEndpoint
    else if requestedApi ≠ recordedApi then some .customApi
    else none
  | _, _, _, _ => some .incompleteCustomRoute

/-- The routes take their credential from different variables. -/
def providerCredentialConflict (requested recorded : GatewayInferenceRoute) : Bool :=
  nonEmptyString requested.credentialEnv ≠ nonEmptyString recorded.credentialEnv

/-- A custom route without an endpoint or an API family. -/
def incompleteCustom (provider : String) (route : GatewayInferenceRoute) : Bool :=
  provider ∈ customRouteProviders && ((routeEndpoint urls provider route).isNone ||
    (normalizedInferenceApi route.preferredInferenceApi).isNone)

/-- How a row differs in what all routes of its provider share. -/
def identityConflicts (requested : ConfiguredRoute) (route recorded : GatewayInferenceRoute) :
    List GatewayRouteConflictReason :=
  (if requested.provider ∈ customRouteProviders then
    (customRouteConflict urls requested.provider route recorded).toList else []) ++
  (if providerCredentialConflict route recorded then [.providerCredential] else [])

/-- What is in the way of two routes on one gateway. -/
def routeConflicts (requested recorded : ConfiguredRoute)
    (route recordedRoute : GatewayInferenceRoute) : List GatewayRouteConflictReason :=
  let identity := if recorded.provider = requested.provider then
    identityConflicts urls requested route recordedRoute else []
  if identity ≠ [] then identity
  else if recorded.provider ≠ requested.provider ∨ recorded.model ≠ requested.model then
    [.providerModel]
  else []

/-- The conflicts with a row of the registry. -/
def rowConflicts (request : GatewayRouteCompatibilityRequest) (requested : ConfiguredRoute)
    (sandbox : SandboxEntry) : List GatewayRouteConflict :=
  if some sandbox.name = request.sandboxName then []
  else match resolveSandboxGatewayName sandbox with
    | none => [⟨sandbox.name, .invalidGatewayBinding, .registered, none⟩]
    | some recordedGatewayName =>
      if recordedGatewayName ≠ request.gatewayName then []
      else match configuredRoute sandbox.route with
        | none => [⟨sandbox.name, .incompleteRoute, .registered, none⟩]
        | some recorded =>
          if incompleteCustom urls recorded.provider sandbox.route then
            [⟨sandbox.name, .incompleteCustomRoute, .registered, some recorded⟩]
          else (routeConflicts urls requested recorded request.route sandbox.route).map
            fun reason => ⟨sandbox.name, reason, .registered, some recorded⟩

/-- The error of a route without provider or model. -/
def unconfigured : String := "Requested gateway inference route requires a provider and model"

/-- A route is checked against the rows on its gateway. -/
def checkGatewayRouteCompatibility (request : GatewayRouteCompatibilityRequest) :
    Except String GatewayRouteCompatibilityResult :=
  match configuredRoute request.route with
  | none => .error unconfigured
  | some requested =>
    if incompleteCustom urls requested.provider request.route then
      .ok (.conflicting request.gatewayName request.sandboxName requested
        [⟨request.sandboxName.getD "requested route", .incompleteCustomRoute, .requested, none⟩])
    else
      let conflicts := request.sandboxes.flatMap (rowConflicts urls request requested)
      if conflicts = [] then .ok .ok
      else .ok (.conflicting request.gatewayName request.sandboxName requested conflicts)

/-- The conflicts are with other models only, and the user may go on. -/
def isAdvisoryGatewayRouteConflict (conflicts : List GatewayRouteConflict) : Bool :=
  conflicts ≠ [] && conflicts.all fun conflict =>
    conflict.scope ≠ .requested && conflict.reason = .providerModel

/-! ## What routes of one provider share -/

/-- The two routes can share a provider. -/
structure Coheres (provider : String) (route route' : GatewayInferenceRoute) : Prop where
  credential : nonEmptyString route.credentialEnv = nonEmptyString route'.credentialEnv
  custom : provider ∈ customRouteProviders → ∃ endpoint api,
    routeEndpoint urls provider route = some endpoint ∧
    routeEndpoint urls provider route' = some endpoint ∧
    normalizedInferenceApi route.preferredInferenceApi = some api ∧
    normalizedInferenceApi route'.preferredInferenceApi = some api

/-- Any two rows of a gateway that have the same provider have one identity. -/
def Coherent (rows : List SandboxEntry) : Prop :=
  ∀ row ∈ rows, ∀ row' ∈ rows, row.name ≠ row'.name → ∀ gateway provider,
    resolveSandboxGatewayName row = some gateway →
    resolveSandboxGatewayName row' = some gateway →
    nonEmptyString row.route.provider = some provider →
    nonEmptyString row'.route.provider = some provider →
    Coheres urls provider row.route row'.route

def Uniform (rows : List SandboxEntry) (gateway : String) : Prop :=
  ∃ route, ∀ row ∈ rows, resolveSandboxGatewayName row = some gateway →
    configuredRoute row.route = some route

def replaceRow (rows : List SandboxEntry) (entry : SandboxEntry) : List SandboxEntry :=
  if rows.any (·.name = entry.name) then
    rows.map fun row => if row.name = entry.name then entry else row
  else rows ++ [entry]

def Admissible : GatewayRouteCompatibilityResult → Prop
  | .ok => True
  | .conflicting _ _ _ conflicts => isAdvisoryGatewayRouteConflict conflicts

structure Admits (accepted : GatewayRouteCompatibilityResult → Prop) (rows : List SandboxEntry)
    (entry : SandboxEntry) (gateway : String) : Prop where
  bound : resolveSandboxGatewayName entry = some gateway
  answer : ∃ sandboxName result, (sandboxName = none ∨ sandboxName = some entry.name) ∧
    checkGatewayRouteCompatibility urls ⟨gateway, sandboxName, entry.route, rows⟩ = .ok result ∧
    accepted result

/-- Admissions one after the other, with the gateways they were made to. -/
inductive Admissions (accepted : GatewayRouteCompatibilityResult → Prop) :
    List SandboxEntry → List String → List SandboxEntry → Prop
  | nil {rows : List SandboxEntry} : Admissions accepted rows [] rows
  | step {rows rows' : List SandboxEntry} {gateways : List String} {gateway : String}
    {entry : SandboxEntry} : Admissions accepted rows gateways rows' →
    Admits urls accepted rows' entry gateway →
    Admissions accepted rows (gateway :: gateways) (replaceRow rows' entry)

section Check

variable {urls : UrlParser} {provider : String} {route route' recorded : GatewayInferenceRoute}
  {request : GatewayRouteCompatibilityRequest} {result : GatewayRouteCompatibilityResult}

lemma Coheres.symm (h : Coheres urls provider route route') :
    Coheres urls provider route' route where
  credential := h.credential.symm
  custom := fun hcustom => by
    obtain ⟨endpoint, api, he, he', ha, ha'⟩ := h.custom hcustom
    exact ⟨endpoint, api, he', he, ha', ha⟩

lemma configuredRoute_provider {configured : ConfiguredRoute}
    (h : configuredRoute route = some configured) :
    nonEmptyString route.provider = some configured.provider := by
  unfold configuredRoute at h
  split at h
  · next provider model hprovider _ =>
    cases h; exact hprovider
  · cases h

lemma customRouteConflict_none (h : customRouteConflict urls provider route route' = none) :
    ∃ endpoint api, routeEndpoint urls provider route = some endpoint ∧
      routeEndpoint urls provider route' = some endpoint ∧
      normalizedInferenceApi route.preferredInferenceApi = some api ∧
      normalizedInferenceApi route'.preferredInferenceApi = some api := by
  unfold customRouteConflict at h
  split at h
  · next endpoint endpoint' api api' he he' ha ha' =>
    split at h
    · cases h
    next hendpoint =>
    split at h
    · cases h
    next hsame =>
    obtain rfl := not_not.mp hendpoint
    obtain rfl := not_not.mp hsame; exact ⟨endpoint, api, he, he', ha, ha'⟩
  · cases h

/-- Where a row differs in nothing that is shared, it coheres. -/
lemma identityConflicts_nil {requested : ConfiguredRoute}
    (h : identityConflicts urls requested route recorded = []) :
    Coheres urls requested.provider route recorded := by
  obtain ⟨hcustom, hcredential⟩ := append_eq_nil_iff.mp h
  refine ⟨?_, fun hprovider => ?_⟩
  · split at hcredential
    · cases hcredential
    · next hsame => simpa [providerCredentialConflict] using hsame
  · rw [if_pos hprovider] at hcustom
    exact customRouteConflict_none (by simpa using hcustom)

lemma routeConflicts_nil {requested recorded' : ConfiguredRoute}
    (h : routeConflicts urls requested recorded' route recorded = []) :
    requested = recorded' := by
  unfold routeConflicts at h
  dsimp only at h
  generalize (if recorded'.provider = requested.provider then
    identityConflicts urls requested route recorded else []) = identity at h
  split at h
  · next hidentity => exact absurd h hidentity
  split at h
  · cases h
  next hsame =>
  obtain ⟨provider, model⟩ := requested
  obtain ⟨provider', model'⟩ := recorded'
  simp only [not_or, not_not] at hsame; obtain ⟨rfl, rfl⟩ := hsame; rfl

/-- None of these is advisory. -/
lemma mem_identityConflicts {requested : ConfiguredRoute}
    {reason : GatewayRouteConflictReason}
    (h : reason ∈ identityConflicts urls requested route recorded) : reason ≠ .providerModel := by
  intro hreason
  subst hreason
  cases mem_append.mp h with
  | inl hcustom =>
    split at hcustom
    · have hconflict := Option.mem_toList.mp hcustom
      unfold customRouteConflict at hconflict
      split at hconflict
      · split at hconflict
        · cases hconflict
        split at hconflict <;> cases hconflict
      · cases hconflict
    · cases hcustom
  | inr hcredential =>
    split at hcredential
    · cases mem_singleton.mp hcredential
    · cases hcredential

lemma checkGatewayRouteCompatibility_inv
    (h : checkGatewayRouteCompatibility urls request = .ok result) (hresult : Admissible result) :
    ∃ requested, configuredRoute request.route = some requested ∧
      incompleteCustom urls requested.provider request.route = false ∧
      ∀ sandbox ∈ request.sandboxes, ∀ conflict ∈ rowConflicts urls request requested sandbox,
        result ≠ .ok ∧ conflict.reason = .providerModel := by
  unfold checkGatewayRouteCompatibility at h
  split at h
  · cases h
  next requested hrequested =>
  refine ⟨requested, hrequested, ?_⟩
  split at h
  · cases h; simp [Admissible, isAdvisoryGatewayRouteConflict] at hresult
  next hcomplete =>
  refine ⟨by simpa using hcomplete, fun sandbox hsandbox conflict hconflict => ?_⟩
  have hmem : conflict ∈ request.sandboxes.flatMap (rowConflicts urls request requested) :=
    mem_flatMap.mpr ⟨sandbox, hsandbox, hconflict⟩
  dsimp only at h
  split at h
  · next hnil =>
    rw [hnil] at hmem; cases hmem
  · cases h
    refine ⟨nofun, ?_⟩
    have hall := (Bool.and_eq_true_iff.mp hresult).2
    have hone := all_eq_true.mp hall conflict hmem
    simpa using (Bool.and_eq_true_iff.mp hone).2

theorem admitted_coheres {accepted : GatewayRouteCompatibilityResult → Prop}
    {rows : List SandboxEntry} {entry sandbox : SandboxEntry} {gateway : String}
    (h : Admits urls accepted rows entry gateway)
    (haccepted : ∀ result, accepted result → Admissible result) (hsandbox : sandbox ∈ rows)
    (hname : sandbox.name ≠ entry.name)
    (hbound : resolveSandboxGatewayName sandbox = some gateway) :
    ∃ requested recorded, configuredRoute entry.route = some requested ∧
      configuredRoute sandbox.route = some recorded ∧
      (requested.provider = recorded.provider →
        Coheres urls requested.provider entry.route sandbox.route) ∧
      ((∀ result, accepted result → result = .ok) → requested = recorded) := by
  obtain ⟨sandboxName, result, hname', hcheck, hresult⟩ := h.answer
  obtain ⟨requested, hrequested, -, hall⟩ :=
    checkGatewayRouteCompatibility_inv hcheck (haccepted result hresult)
  have hrow := hall sandbox hsandbox
  have hother : some sandbox.name ≠ sandboxName := by
    cases hname' with
    | inl hnone => simp [hnone]
    | inr hsome => simpa [hsome] using hname
  unfold rowConflicts at hrow
  simp only [if_neg hother, hbound, ne_eq, not_true_eq_false, if_false] at hrow
  cases hconfigured : configuredRoute sandbox.route with
  | none =>
    simp only [hconfigured, mem_singleton] at hrow
    have hreason := (hrow _ rfl).2; cases hreason
  | some recorded =>
    simp only [hconfigured] at hrow
    split at hrow
    · have hreason := (hrow _ (mem_singleton_self _)).2; cases hreason
    refine ⟨requested, recorded, hrequested, rfl, fun hprovider => ?_, fun hok => ?_⟩
    · refine identityConflicts_nil (eq_nil_iff_forall_not_mem.mpr fun reason hreason => ?_)
      -- an identity conflict would be one of the conflicts, and none of them is advisory
      have hmem : reason ∈ routeConflicts urls requested recorded entry.route sandbox.route := by
        unfold routeConflicts
        simp only [hprovider.symm, if_true]
        rw [if_pos (ne_nil_of_mem hreason)]; exact hreason
      exact mem_identityConflicts hreason (hrow _ (mem_map_of_mem hmem)).2
    · have hnil : routeConflicts urls requested recorded entry.route sandbox.route = [] :=
        eq_nil_iff_forall_not_mem.mpr fun reason hreason =>
          (hrow _ (mem_map_of_mem hreason)).1 (hok result hresult)
      exact routeConflicts_nil hnil

end Check

section Registry

variable {urls : UrlParser} {accepted : GatewayRouteCompatibilityResult → Prop}
  {rows rows' : List SandboxEntry} {entry : SandboxEntry} {gateway : String}
  {gateways : List String}

lemma mem_replaceRow {row : SandboxEntry} (h : row ∈ replaceRow rows entry) :
    row = entry ∨ row ∈ rows ∧ row.name ≠ entry.name := by
  unfold replaceRow at h
  split at h
  · obtain ⟨before, hbefore, heq⟩ := mem_map.mp h
    split at heq
    · exact .inl heq.symm
    · next hname =>
      subst heq; exact .inr ⟨hbefore, hname⟩
  · next hnone =>
    cases mem_append.mp h with
    | inl hold =>
      refine .inr ⟨hold, fun hname => hnone ?_⟩
      exact any_eq_true.mpr ⟨row, hold, by simpa using hname⟩
    | inr hnew => exact .inl (mem_singleton.mp hnew)

lemma Admits.coheres (h : Admits urls accepted rows entry gateway)
    (haccepted : ∀ result, accepted result → Admissible result) {row : SandboxEntry}
    {gateway' provider : String} (hrow : row ∈ rows) (hname : row.name ≠ entry.name)
    (hentry : resolveSandboxGatewayName entry = some gateway')
    (hbound : resolveSandboxGatewayName row = some gateway')
    (hprovider : nonEmptyString entry.route.provider = some provider)
    (hprovider' : nonEmptyString row.route.provider = some provider) :
    Coheres urls provider entry.route row.route := by
  cases h.bound.symm.trans hentry
  obtain ⟨requested, recorded, hrequested, hrecorded, hcoheres, -⟩ :=
    admitted_coheres h haccepted hrow hname hbound
  have hsame : requested.provider = provider :=
    Option.some.inj ((configuredRoute_provider hrequested).symm.trans hprovider)
  have hsame' : recorded.provider = provider :=
    Option.some.inj ((configuredRoute_provider hrecorded).symm.trans hprovider')
  rw [← hsame]; exact hcoheres (hsame.trans hsame'.symm)

theorem Coherent.admitted (h : Coherent urls rows)
    (haccepted : ∀ result, accepted result → Admissible result)
    (hadmits : Admits urls accepted rows entry gateway) :
    Coherent urls (replaceRow rows entry) := by
  intro row hrow row' hrow' hname gateway' provider hbound hbound' hprovider hprovider'
  cases mem_replaceRow hrow with
  | inl hnew =>
    subst hnew
    cases mem_replaceRow hrow' with
    | inl hnew' => exact absurd (congrArg SandboxEntry.name hnew'.symm) hname
    | inr hold' =>
      exact hadmits.coheres haccepted hold'.1 hold'.2 hbound hbound' hprovider hprovider'
  | inr hold =>
    cases mem_replaceRow hrow' with
    | inl hnew' =>
      subst hnew'
      exact (hadmits.coheres haccepted hold.1 hold.2 hbound' hbound hprovider' hprovider).symm
    | inr hold' =>
      exact h row hold.1 row' hold'.1 hname gateway' provider hbound hbound' hprovider hprovider'

/-- An admission without any conflict leaves one provider and model on its gateway. -/
lemma Admits.uniform (h : Admits urls (· = .ok) rows entry gateway) :
    Uniform (replaceRow rows entry) gateway := by
  have haccepted : ∀ result : GatewayRouteCompatibilityResult, result = .ok → Admissible result :=
    fun result hresult => hresult ▸ trivial
  obtain ⟨sandboxName, result, -, hcheck, hresult⟩ := h.answer
  obtain ⟨requested, hrequested, -, -⟩ :=
    checkGatewayRouteCompatibility_inv hcheck (haccepted result hresult)
  refine ⟨requested, fun row hrow hbound => ?_⟩
  cases mem_replaceRow hrow with
  | inl hnew => exact hnew ▸ hrequested
  | inr hold =>
  obtain ⟨requested', recorded, hrequested', hrecorded, -, hsame⟩ :=
    admitted_coheres h haccepted hold.1 hold.2 hbound
  cases hrequested.symm.trans hrequested'
  rw [hrecorded, hsame fun _ hok => hok]

lemma Admits.uniform_other {gateway' : String} (h : Admits urls (· = .ok) rows entry gateway)
    (huniform : Uniform rows gateway') : Uniform (replaceRow rows entry) gateway' := by
  by_cases hsame : gateway' = gateway
  · exact hsame ▸ h.uniform
  obtain ⟨route, hall⟩ := huniform
  refine ⟨route, fun row hrow hbound => ?_⟩
  cases mem_replaceRow hrow with
  | inl hnew => subst hnew; exact absurd (Option.some.inj (hbound.symm.trans h.bound)) hsame
  | inr hold => exact hall row hold.1 hbound

lemma Admissions.coherent (h : Admissions urls accepted rows gateways rows')
    (haccepted : ∀ result, accepted result → Admissible result) (hrows : Coherent urls rows) :
    Coherent urls rows' := by
  induction h with
  | nil => exact hrows
  | step _ hadmits ih => exact ih.admitted haccepted hadmits

lemma Admissions.uniform (h : Admissions urls (· = .ok) rows gateways rows')
    (hgateway : gateway ∈ gateways ∨ Uniform rows gateway) : Uniform rows' gateway := by
  induction h with
  | nil =>
    cases hgateway with
    | inl hmem => cases hmem
    | inr huniform => exact huniform
  | step _ hadmits ih =>
    cases hgateway with
    | inr huniform => exact hadmits.uniform_other (ih (.inr huniform))
    | inl hmem =>
      cases mem_cons.mp hmem with
      | inl hnow => exact hnow ▸ hadmits.uniform
      | inr hbefore => exact hadmits.uniform_other (ih (.inl hbefore))

end Registry

section Symmetry

variable {urls : UrlParser} {provider : String} {route route' : GatewayInferenceRoute}

structure Complete (urls : UrlParser) (route : GatewayInferenceRoute)
    (requested : ConfiguredRoute) : Prop where
  configured : configuredRoute route = some requested
  custom : incompleteCustom urls requested.provider route = false

/-- What conflicts there are, without the sandboxes they are about. -/
def GatewayRouteCompatibilityResult.reasons :
    GatewayRouteCompatibilityResult → List (GatewayRouteConflictReason × ConflictScope)
  | .ok => []
  | .conflicting _ _ _ conflicts => conflicts.map fun conflict => (conflict.reason, conflict.scope)

lemma customRouteConflict_symm :
    customRouteConflict urls provider route route' =
      customRouteConflict urls provider route' route := by
  unfold customRouteConflict
  cases routeEndpoint urls provider route with
  | none => cases routeEndpoint urls provider route' <;> rfl
  | some endpoint =>
  cases routeEndpoint urls provider route' with
  | none => rfl
  | some endpoint' =>
  cases normalizedInferenceApi route.preferredInferenceApi with
  | none => cases normalizedInferenceApi route'.preferredInferenceApi <;> rfl
  | some api =>
    cases normalizedInferenceApi route'.preferredInferenceApi with
    | none => rfl
    | some api' => simp only [ne_comm]

lemma identityConflicts_symm {requested requested' : ConfiguredRoute}
    (h : requested.provider = requested'.provider) :
    identityConflicts urls requested route route' =
      identityConflicts urls requested' route' route := by
  unfold identityConflicts providerCredentialConflict
  rw [h, customRouteConflict_symm]; simp only [ne_comm]

lemma routeConflicts_symm {requested recorded : ConfiguredRoute} :
    routeConflicts urls requested recorded route route' =
      routeConflicts urls recorded requested route' route := by
  unfold routeConflicts
  by_cases hprovider : recorded.provider = requested.provider
  · rw [if_pos hprovider, if_pos hprovider.symm, identityConflicts_symm hprovider.symm]
    simp only [ne_comm]
  · rw [if_neg hprovider, if_neg (Ne.symm hprovider)]; simp only [ne_comm]

lemma checkGatewayRouteCompatibility_complete {request : GatewayRouteCompatibilityRequest}
    {requested : ConfiguredRoute} (h : Complete urls request.route requested) :
    ∃ result, checkGatewayRouteCompatibility urls request = .ok result ∧
      (result = .ok ↔ result.reasons = []) ∧
      result.reasons = (request.sandboxes.flatMap (rowConflicts urls request requested)).map
        fun conflict => (conflict.reason, conflict.scope) := by
  unfold checkGatewayRouteCompatibility
  rw [h.configured]
  dsimp only
  rw [if_neg (by simp [h.custom])]
  by_cases hnil : request.sandboxes.flatMap (rowConflicts urls request requested) = []
  · rw [if_pos hnil, hnil]; exact ⟨_, rfl, ⟨fun _ => rfl, fun _ => rfl⟩, rfl⟩
  · rw [if_neg hnil]
    refine ⟨_, rfl, ⟨nofun, fun hreasons => ?_⟩, rfl⟩
    exact absurd (map_eq_nil_iff.mp hreasons) hnil

lemma rowConflicts_complete {request : GatewayRouteCompatibilityRequest} {row : SandboxEntry}
    {requested recorded : ConfiguredRoute} {gateway : String}
    (hrow : Complete urls row.route recorded)
    (hbound : resolveSandboxGatewayName row = some gateway) :
    (rowConflicts urls request requested row).map (fun conflict =>
        (conflict.reason, conflict.scope)) =
      if some row.name = request.sandboxName ∨ gateway ≠ request.gatewayName then []
      else (routeConflicts urls requested recorded request.route row.route).map
        fun reason => (reason, .registered) := by
  unfold rowConflicts
  by_cases hname : some row.name = request.sandboxName
  · rw [if_pos hname, if_pos (.inl hname)]; rfl
  rw [if_neg hname, hbound]
  dsimp only
  by_cases hgateway : gateway = request.gatewayName
  · rw [if_neg (not_not.mpr hgateway), if_neg (by simp [hname, hgateway]), hrow.configured]
    dsimp only
    rw [if_neg (by simp [hrow.custom]), map_map]; rfl
  · rw [if_pos hgateway, if_pos (.inr hgateway)]; rfl

theorem checkGatewayRouteCompatibility_symm {entry row : SandboxEntry}
    {requested recorded : ConfiguredRoute} {gateway gateway' : String}
    (hentry : Complete urls entry.route requested) (hrow : Complete urls row.route recorded)
    (hbound : resolveSandboxGatewayName entry = some gateway)
    (hbound' : resolveSandboxGatewayName row = some gateway') :
    ∃ result result',
      checkGatewayRouteCompatibility urls ⟨gateway, some entry.name, entry.route, [row]⟩ =
        .ok result ∧
      checkGatewayRouteCompatibility urls ⟨gateway', some row.name, row.route, [entry]⟩ =
        .ok result' ∧
      (result = .ok ↔ result' = .ok) ∧ result.reasons = result'.reasons := by
  have hfirst : Complete urls (GatewayRouteCompatibilityRequest.mk gateway (some entry.name)
      entry.route [row]).route requested := hentry
  have hsecond : Complete urls (GatewayRouteCompatibilityRequest.mk gateway' (some row.name)
      row.route [entry]).route recorded := hrow
  obtain ⟨result, hresult, hok, hreasons⟩ := checkGatewayRouteCompatibility_complete hfirst
  obtain ⟨result', hresult', hok', hreasons'⟩ := checkGatewayRouteCompatibility_complete hsecond
  have hsame : result.reasons = result'.reasons := by
    rw [hreasons, hreasons']
    simp only [flatMap_cons, flatMap_nil, append_nil]
    rw [rowConflicts_complete hrow hbound', rowConflicts_complete hentry hbound,
      routeConflicts_symm]
    simp only [Option.some.injEq, ne_comm, eq_comm]
  exact ⟨result, result', hresult, hresult', by rw [hok, hok', hsame], hsame⟩

end Symmetry

/-- The rows of a gateway keep one identity for each provider, through any admissions without a
conflict that is not advisory; without any conflict, all rows of a gateway that an admission
was made to, or whose rows agreed before, have one provider and model; and two complete routes
conflict in the same way from both sides. -/
theorem gatewayRoutes_coherent (urls : UrlParser) :
    (∀ rows gateways rows', Coherent urls rows → Admissions urls Admissible rows gateways rows' →
      Coherent urls rows') ∧
    (∀ rows gateways rows' gateway, Admissions urls (· = .ok) rows gateways rows' →
      gateway ∈ gateways ∨ Uniform rows gateway → Uniform rows' gateway) ∧
    (∀ entry row : SandboxEntry, ∀ requested recorded gateway gateway',
      Complete urls entry.route requested → Complete urls row.route recorded →
      resolveSandboxGatewayName entry = some gateway →
      resolveSandboxGatewayName row = some gateway' →
      ∃ result result',
        checkGatewayRouteCompatibility urls ⟨gateway, some entry.name, entry.route, [row]⟩ =
          .ok result ∧
        checkGatewayRouteCompatibility urls ⟨gateway', some row.name, row.route, [entry]⟩ =
          .ok result' ∧
        (result = .ok ↔ result' = .ok) ∧ result.reasons = result'.reasons) := by
  refine ⟨fun rows gateways rows' hrows hadmissions => ?_,
    fun rows gateways rows' gateway hadmissions hgateway => hadmissions.uniform hgateway,
    fun entry row requested recorded gateway gateway' hentry hrow hbound hbound' => ?_⟩
  · exact hadmissions.coherent (fun _ hresult => hresult) hrows
  · exact checkGatewayRouteCompatibility_symm hentry hrow hbound hbound'

/-- A parser that takes every text for an origin. -/
def plainUrls : UrlParser where
  parse := fun text => some ⟨"https:", "", "", text, "/", text⟩
  assignPathname := fun _ pathname => pathname

def customRow (name : String) (gatewayPort : Option ℚ) (model : String) : SandboxEntry where
  name := name
  gatewayName := none
  gatewayPort := gatewayPort
  route := ⟨some "compatible-endpoint", some model, some "https://models.example",
    some "openai-completions", some "COMPATIBLE_API_KEY"⟩

lemma coherent_single (urls : UrlParser) (row : SandboxEntry) : Coherent urls [row] := by
  intro row' hrow' row'' hrow'' hname
  obtain rfl := mem_singleton.mp hrow'
  obtain rfl := mem_singleton.mp hrow''; exact absurd rfl hname

/-- A second sandbox is given another model of the same endpoint. -/
theorem gatewayRoutes_coherent_otherModel :
    Coherent plainUrls [customRow "a" none "m", customRow "b" (some 8080) "n"] ∧
      Uniform [customRow "a" none "m", customRow "b" (some 8080) "m"] "nemoclaw" ∧
      ∃ result result',
        checkGatewayRouteCompatibility plainUrls ⟨"nemoclaw", some "a",
          (customRow "a" none "m").route, [customRow "b" (some 8080) "n"]⟩ = .ok result ∧
        checkGatewayRouteCompatibility plainUrls ⟨"nemoclaw", some "b",
          (customRow "b" (some 8080) "n").route, [customRow "a" none "m"]⟩ = .ok result' ∧
        (result = .ok ↔ result' = .ok) ∧ result.reasons = result'.reasons := by
  have hadvisory : Admits plainUrls Admissible [customRow "a" none "m"]
      (customRow "b" (some 8080) "n") "nemoclaw" :=
    ⟨by decide +kernel, some "b", .conflicting "nemoclaw" (some "b")
      ⟨"compatible-endpoint", "n"⟩
      [⟨"a", .providerModel, .registered, some ⟨"compatible-endpoint", "m"⟩⟩],
      .inr rfl, by decide +kernel, rfl⟩
  have hok : Admits plainUrls (· = .ok) [customRow "a" none "m"]
      (customRow "b" (some 8080) "m") "nemoclaw" :=
    ⟨by decide +kernel, some "b", .ok, .inr rfl, by decide +kernel, rfl⟩
  exact ⟨(gatewayRoutes_coherent plainUrls).1 _ _ _ (coherent_single _ _) (.step .nil hadvisory),
    (gatewayRoutes_coherent plainUrls).2.1 _ _ _ "nemoclaw" (.step .nil hok)
      (.inl mem_cons_self),
    (gatewayRoutes_coherent plainUrls).2.2 (customRow "a" none "m")
      (customRow "b" (some 8080) "n") ⟨"compatible-endpoint", "m"⟩ ⟨"compatible-endpoint", "n"⟩
      "nemoclaw" "nemoclaw" ⟨by decide +kernel, by decide +kernel⟩
      ⟨by decide +kernel, by decide +kernel⟩ (by decide +kernel) (by decide +kernel)⟩

/-- Two models on the first gateway, as an advisory conflict leaves them. -/
def mixedRows : List SandboxEntry := [customRow "a" none "m", customRow "b" none "n"]

lemma mixedRows_coherent : Coherent plainUrls mixedRows := by
  have hadvisory : Admits plainUrls Admissible [customRow "a" none "m"]
      (customRow "b" none "n") "nemoclaw" :=
    ⟨by decide +kernel, some "b", .conflicting "nemoclaw" (some "b")
      ⟨"compatible-endpoint", "n"⟩
      [⟨"a", .providerModel, .registered, some ⟨"compatible-endpoint", "m"⟩⟩],
      .inr rfl, by decide +kernel, rfl⟩
  exact (coherent_single _ _).admitted (fun _ hresult => hresult) hadvisory

/-- An admission to another gateway does not make the first one uniform. -/
theorem gatewayRoutes_mixed :
    ¬∀ rows gateways rows', Coherent plainUrls rows →
      Admissions plainUrls (· = .ok) rows gateways rows' → ∀ gateway, Uniform rows' gateway := by
  intro h
  have hok : Admits plainUrls (· = .ok) mixedRows (customRow "c" (some 9090) "m")
      "nemoclaw-9090" :=
    ⟨by decide +kernel, some "c", .ok, .inr rfl, by decide +kernel, rfl⟩
  obtain ⟨route, hall⟩ := h _ _ _ mixedRows_coherent (.step .nil hok) "nemoclaw"
  have hfirst := hall (customRow "a" none "m") (by decide +kernel) (by decide +kernel)
  have hsecond := hall (customRow "b" none "n") (by decide +kernel) (by decide +kernel)
  have hsame := hfirst.trans hsecond.symm
  revert hsame; decide +kernel

end NemoClaw.GatewayRoute
