import Mathlib.Data.List.DropRight
import NemoClaw.Inference.GatewayRouteCompatibility

/- Which route can be discovered for a sandbox on a gateway that others share.

Before the model and the API family of a request are known, what is missing is taken from
the first configured row of the gateway, and the request so completed is checked against
all rows.

What is proved:
  1. `checkGatewayRouteCompatibility_ok`: the check admits a route without conflict exactly
     if it is configured and complete and every row fits it.
  2. `Peered.candidate_ok`: where any completion is admitted, the one that is tried is.
  3. `preflightGatewayRouteDiscovery_exact`: where there is a row to compare with, the
     preflight answers ok exactly if some completion is admitted, and then every one that
     is has the model, endpoint and API family that the preflight requires.

Correspondence (inference/gateway-route-compatibility.ts ↔ Lean): `discoveryRow` is the body
of the loop of `preflightGatewayRouteDiscovery`, `discoveryCandidate` its `candidate`.
-/
namespace NemoClaw.GatewayRoute

open Js List Option

inductive GatewayRouteDiscoveryResult where
  | ok (requiredModel requiredEndpointUrl requiredInferenceApi : Option String)
  | conflicting (result : GatewayRouteCompatibilityResult)
  deriving DecidableEq

def discoveryRow (request : GatewayRouteCompatibilityRequest) (sandbox : SandboxEntry) :
    Option (Except GatewayRouteConflict SandboxEntry) :=
  if some sandbox.name = request.sandboxName then none
  else match resolveSandboxGatewayName sandbox with
    | none => some (.error ⟨sandbox.name, .invalidGatewayBinding, .registered, none⟩)
    | some recordedGatewayName =>
      if recordedGatewayName ≠ request.gatewayName then none
      else if (configuredRoute sandbox.route).isSome then some (.ok sandbox)
      else some (.error ⟨sandbox.name, .incompleteRoute, .registered, none⟩)

def discoveryConflicts (request : GatewayRouteCompatibilityRequest) : List GatewayRouteConflict :=
  (request.sandboxes.filterMap (discoveryRow request)).filterMap fun found =>
    match found with
    | .error conflict => some conflict
    | .ok _ => none

def discoveryPeers (request : GatewayRouteCompatibilityRequest) : List SandboxEntry :=
  (request.sandboxes.filterMap (discoveryRow request)).filterMap fun found =>
    match found with
    | .error _ => none
    | .ok sandbox => some sandbox

/-- `nonEmptyString(value) ?? fallback`. -/
def orRecorded (value fallback : Option String) : Option String :=
  (nonEmptyString value).or fallback

def discoveryCandidate (provider : String) (recorded : ConfiguredRoute)
    (route reference : GatewayInferenceRoute) : GatewayInferenceRoute where
  provider := some provider
  model := orRecorded route.model (some recorded.model)
  endpointUrl := orRecorded route.endpointUrl reference.endpointUrl
  preferredInferenceApi := orRecorded route.preferredInferenceApi reference.preferredInferenceApi
  credentialEnv := orRecorded route.credentialEnv reference.credentialEnv

def preflightGatewayRouteDiscovery (urls : UrlParser) (request : GatewayRouteCompatibilityRequest) :
    Except String GatewayRouteDiscoveryResult :=
  match nonEmptyString request.route.provider with
  | none => .error "Requested gateway inference route requires a provider"
  | some provider =>
    let requestedModel := nonEmptyString request.route.model
    if discoveryConflicts request ≠ [] then
      .ok (.conflicting (.conflicting request.gatewayName request.sandboxName
        ⟨provider, requestedModel.getD "model discovery pending"⟩ (discoveryConflicts request)))
    else match discoveryPeers request with
      | [] => .ok (.ok none none none)
      | reference :: rest =>
        match configuredRoute reference.route with
        | none => .error "Gateway route discovery peer is not configured"
        | some recorded =>
          if provider ≠ recorded.provider ∨ requestedModel.any (· ≠ recorded.model) then
            .ok (.conflicting (.conflicting request.gatewayName request.sandboxName
              ⟨provider, requestedModel.getD recorded.model⟩
              ((reference :: rest).map fun sandbox =>
                ⟨sandbox.name, .providerModel, .registered, configuredRoute sandbox.route⟩)))
          else
            match checkGatewayRouteCompatibility urls { request with
                route := discoveryCandidate provider recorded request.route reference.route } with
            | .error e => .error e
            | .ok .ok => .ok (.ok (some recorded.model)
                (if provider ∈ customRouteProviders then nonEmptyString reference.route.endpointUrl
                  else none)
                (if provider ∈ customRouteProviders then
                  normalizedInferenceApi reference.route.preferredInferenceApi else none))
            | .ok result => .ok (.conflicting result)

lemma jsTrim_jsTrim (s : String) : jsTrim (jsTrim s) = jsTrim s := by
  have hend : jsTrim s = .ofList ((s.toList.dropWhile isJsSpace).rdropWhile isJsSpace) := rfl
  have hfront : ((s.toList.dropWhile isJsSpace).rdropWhile isJsSpace).dropWhile isJsSpace =
      (s.toList.dropWhile isJsSpace).rdropWhile isJsSpace := by
    refine dropWhile_eq_self_iff.mpr fun hpos => ?_
    have hlead := rdropWhile_prefix isJsSpace (l := s.toList.dropWhile isJsSpace)
    have hself := dropWhile_eq_self_iff.mp (dropWhile_idempotent isJsSpace s.toList)
    rw [hlead.getElem hpos]; exact hself (hpos.trans_le hlead.length_le)
  rw [hend, jsTrim, String.toList_ofList, hfront]
  exact congrArg String.ofList (rdropWhile_idempotent isJsSpace _)

lemma nonEmptyString_some (text : String) :
    nonEmptyString (some text) = if jsTrim text = "" then none else some (jsTrim text) := by
  by_cases h : jsTrim text = "" <;> simp [nonEmptyString, Option.filter, h]

/-- What is read of a text is read of what was read. -/
lemma nonEmptyString_nonEmptyString (value : Option String) :
    nonEmptyString (nonEmptyString value) = nonEmptyString value := by
  cases value with
  | none => rfl
  | some text =>
  rw [nonEmptyString_some]
  split
  · rfl
  · next hne => rw [nonEmptyString_some, jsTrim_jsTrim, if_neg hne]

lemma nonEmptyString_orRecorded (value fallback : Option String) :
    nonEmptyString (orRecorded value fallback) =
      (nonEmptyString value).or (nonEmptyString fallback) := by
  unfold orRecorded
  cases h : nonEmptyString value with
  | none => rfl
  | some text =>
    have hself := nonEmptyString_nonEmptyString value
    rw [h] at hself; exact hself

lemma canonicalEndpoint_nonEmptyString (urls : UrlParser) (value : Option String)
    (flavor : EndpointFlavor) :
    canonicalEndpoint urls (nonEmptyString value) flavor = canonicalEndpoint urls value flavor := by
  cases value with
  | none => rfl
  | some text =>
  rw [nonEmptyString_some]
  unfold canonicalEndpoint
  split
  · next hempty =>
    have hnone : jsTrim ((none : Option String).getD "") = "" := rfl
    simp only [hnone, getD_some, hempty]
  · simp only [getD_some, jsTrim_jsTrim]

section Check

variable {urls : UrlParser} {provider : String} {route route' recorded : GatewayInferenceRoute}
  {request : GatewayRouteCompatibilityRequest} {requested : ConfiguredRoute}

lemma routeEndpoint_congr
    (h : nonEmptyString route.endpointUrl = nonEmptyString route'.endpointUrl) :
    routeEndpoint urls provider route = routeEndpoint urls provider route' := by
  unfold routeEndpoint
  rw [← canonicalEndpoint_nonEmptyString, h, canonicalEndpoint_nonEmptyString]

structure Alike (urls : UrlParser) (provider : String) (route route' : GatewayInferenceRoute) :
    Prop where
  credential : nonEmptyString route.credentialEnv = nonEmptyString route'.credentialEnv
  custom : provider ∈ customRouteProviders →
    routeEndpoint urls provider route = routeEndpoint urls provider route' ∧
    normalizedInferenceApi route.preferredInferenceApi =
      normalizedInferenceApi route'.preferredInferenceApi

lemma Coheres.congr (h : Coheres urls provider route recorded)
    (halike : Alike urls provider route' route) : Coheres urls provider route' recorded where
  credential := halike.credential.trans h.credential
  custom := fun hcustom => by
    obtain ⟨endpoint, api, he, he', ha, ha'⟩ := h.custom hcustom
    obtain ⟨hendpoint, hapi⟩ := halike.custom hcustom
    exact ⟨endpoint, api, hendpoint.trans he, he', hapi.trans ha, ha'⟩

def Fits (urls : UrlParser) (request : GatewayRouteCompatibilityRequest)
    (requested : ConfiguredRoute) (route : GatewayInferenceRoute) (row : SandboxEntry) : Prop :=
  some row.name = request.sandboxName ∨
    ∃ gateway, resolveSandboxGatewayName row = some gateway ∧
      (gateway = request.gatewayName → configuredRoute row.route = some requested ∧
        Coheres urls requested.provider route row.route)

lemma Coheres.complete (h : Coheres urls provider route recorded) :
    incompleteCustom urls provider route = false ∧
      incompleteCustom urls provider recorded = false := by
  unfold incompleteCustom
  by_cases hcustom : provider ∈ customRouteProviders
  · obtain ⟨endpoint, api, he, he', ha, ha'⟩ := h.custom hcustom
    simp [he, he', ha, ha']
  · simp [hcustom]

lemma Coheres.routeConflicts (h : Coheres urls requested.provider route recorded) :
    routeConflicts urls requested requested route recorded = [] := by
  have hidentity : identityConflicts urls requested route recorded = [] := by
    unfold identityConflicts providerCredentialConflict
    rw [h.credential]
    by_cases hcustom : requested.provider ∈ customRouteProviders
    · obtain ⟨endpoint, api, he, he', ha, ha'⟩ := h.custom hcustom
      simp [customRouteConflict, he, he', ha, ha']
    · simp [hcustom]
  unfold GatewayRoute.routeConflicts; simp [hidentity]

lemma routeConflicts_coheres {recorded' : ConfiguredRoute}
    (h : routeConflicts urls requested recorded' route recorded = []) :
    Coheres urls requested.provider route recorded := by
  have hsame := routeConflicts_nil h
  subst hsame
  unfold routeConflicts at h
  rw [if_pos rfl] at h
  by_cases hnil : identityConflicts urls requested route recorded = []
  · exact identityConflicts_nil hnil
  · rw [if_pos hnil] at h; exact absurd h hnil

lemma rowConflicts_nil_iff {row : SandboxEntry} :
    rowConflicts urls request requested row = [] ↔
      Fits urls request requested request.route row := by
  unfold rowConflicts Fits
  by_cases hown : some row.name = request.sandboxName
  · simp [hown]
  rw [if_neg hown, or_iff_right hown]
  cases hbound : resolveSandboxGatewayName row with
  | none => simp
  | some gateway =>
  dsimp only
  by_cases hgateway : gateway = request.gatewayName
  · rw [if_neg (not_not.mpr hgateway)]
    cases hconfigured : configuredRoute row.route with
    | none => simp [hgateway]
    | some recorded =>
    dsimp only
    constructor
    · intro h
      split at h
      · cases h
      have hnil := map_eq_nil_iff.mp h
      exact ⟨gateway, rfl, fun _ => ⟨congrArg some (routeConflicts_nil hnil).symm,
        routeConflicts_coheres hnil⟩⟩
    · rintro ⟨gateway', hsame, h⟩
      cases hsame
      obtain ⟨hsame, hcoheres⟩ := h hgateway
      cases hsame
      rw [if_neg (by simp [hcoheres.complete.2]), hcoheres.routeConflicts]; rfl
  · simp [hgateway]

theorem checkGatewayRouteCompatibility_ok :
    checkGatewayRouteCompatibility urls request = .ok .ok ↔
      ∃ requested, configuredRoute request.route = some requested ∧
        incompleteCustom urls requested.provider request.route = false ∧
        ∀ row ∈ request.sandboxes, Fits urls request requested request.route row := by
  unfold checkGatewayRouteCompatibility
  cases configuredRoute request.route with
  | none => simp
  | some requested =>
  by_cases hincomplete : incompleteCustom urls requested.provider request.route
  · simp [hincomplete]
  have hiff : request.sandboxes.flatMap (rowConflicts urls request requested) = [] ↔
      ∀ row ∈ request.sandboxes, Fits urls request requested request.route row := by
    rw [flatMap_eq_nil_iff]; exact forall₂_congr fun row _ => rowConflicts_nil_iff
  simp [hincomplete, hiff]

lemma Alike.admitted (h : Alike urls requested.provider route' route)
    (hconfigured : configuredRoute route = some requested)
    (hconfigured' : configuredRoute route' = some requested)
    (hok : checkGatewayRouteCompatibility urls { request with route := route } = .ok .ok) :
    checkGatewayRouteCompatibility urls { request with route := route' } = .ok .ok := by
  obtain ⟨requested', hrequested, hcomplete, hfits⟩ := checkGatewayRouteCompatibility_ok.mp hok
  cases hconfigured.symm.trans hrequested
  refine checkGatewayRouteCompatibility_ok.mpr ⟨requested, hconfigured', ?_, fun row hrow => ?_⟩
  · unfold incompleteCustom at hcomplete ⊢
    by_cases hcustom : requested.provider ∈ customRouteProviders
    · rw [(h.custom hcustom).1, (h.custom hcustom).2]; exact hcomplete
    · simp [hcustom]
  · refine (hfits row hrow).imp_right ?_
    rintro ⟨gateway, hbound, hrow⟩
    exact ⟨gateway, hbound, fun hgateway => (hrow hgateway).imp_right (·.congr h)⟩

end Check

/-! ## Completions -/

/-- The second route has what the first has, and anything for what it lacks. -/
structure Completes (route route' : GatewayInferenceRoute) : Prop where
  provider : route'.provider = route.provider
  model : nonEmptyString route.model ≠ none → route'.model = route.model
  endpointUrl : nonEmptyString route.endpointUrl ≠ none → route'.endpointUrl = route.endpointUrl
  preferredInferenceApi : nonEmptyString route.preferredInferenceApi ≠ none →
    route'.preferredInferenceApi = route.preferredInferenceApi
  credentialEnv : nonEmptyString route.credentialEnv ≠ none →
    route'.credentialEnv = route.credentialEnv

/-- The completion is admitted without conflict. -/
def Admitted (urls : UrlParser) (request : GatewayRouteCompatibilityRequest)
    (route : GatewayInferenceRoute) : Prop :=
  Completes request.route route ∧
    checkGatewayRouteCompatibility urls { request with route := route } = .ok .ok

/-- Another sandbox is bound to the gateway. -/
def Shared (request : GatewayRouteCompatibilityRequest) : Prop :=
  ∃ row ∈ request.sandboxes, some row.name ≠ request.sandboxName ∧
    resolveSandboxGatewayName row = some request.gatewayName

/-- The rows that are compared: all bindings are valid, all rows of the gateway configured, and
there is a first. -/
structure Peered (request : GatewayRouteCompatibilityRequest) (reference : SandboxEntry)
    (rest : List SandboxEntry) (recorded : ConfiguredRoute) : Prop where
  conflicts : discoveryConflicts request = []
  peers : discoveryPeers request = reference :: rest
  configured : configuredRoute reference.route = some recorded

section Peers

variable {urls : UrlParser} {request : GatewayRouteCompatibilityRequest}
  {route : GatewayInferenceRoute} {requested recorded : ConfiguredRoute}
  {row reference : SandboxEntry} {rest : List SandboxEntry} {provider : String}

lemma mem_discoveryPeers (h : row ∈ discoveryPeers request) :
    row ∈ request.sandboxes ∧ some row.name ≠ request.sandboxName ∧
      resolveSandboxGatewayName row = some request.gatewayName ∧
      (configuredRoute row.route).isSome := by
  obtain ⟨found, hfound, hpeer⟩ := mem_filterMap.mp h
  obtain ⟨row', hrow', hdiscovered⟩ := mem_filterMap.mp hfound
  cases found with
  | error conflict => cases hpeer
  | ok peer =>
  cases hpeer
  unfold discoveryRow at hdiscovered
  split at hdiscovered
  · cases hdiscovered
  next hown =>
  split at hdiscovered
  · cases hdiscovered
  next gateway hbound =>
  split at hdiscovered
  · cases hdiscovered
  next hgateway =>
  split at hdiscovered
  · next hconfigured =>
    cases hdiscovered; exact ⟨hrow', hown, not_not.mp hgateway ▸ hbound, hconfigured⟩
  · cases hdiscovered

lemma discoveryRow_bound (hown : some row.name ≠ request.sandboxName)
    (hbound : resolveSandboxGatewayName row = some request.gatewayName) :
    discoveryRow request row = some (if (configuredRoute row.route).isSome then .ok row
      else .error ⟨row.name, .incompleteRoute, .registered, none⟩) := by
  unfold discoveryRow
  rw [if_neg hown, hbound]
  dsimp only
  rw [if_neg (not_not.mpr rfl)]
  split <;> rfl

lemma discoveryConflicts_nil (h : ∀ row ∈ request.sandboxes, Fits urls request requested route row) :
    discoveryConflicts request = [] := by
  refine eq_nil_iff_forall_not_mem.mpr fun conflict hconflict => ?_
  obtain ⟨found, hfound, herror⟩ := mem_filterMap.mp hconflict
  obtain ⟨row, hrow, hdiscovered⟩ := mem_filterMap.mp hfound
  cases h row hrow with
  | inl hown =>
    unfold discoveryRow at hdiscovered
    rw [if_pos hown] at hdiscovered; cases hdiscovered
  | inr hfits =>
    obtain ⟨gateway, hbound, hrow⟩ := hfits
    unfold discoveryRow at hdiscovered
    rw [hbound] at hdiscovered
    dsimp only at hdiscovered
    split at hdiscovered
    · cases hdiscovered
    split at hdiscovered
    · cases hdiscovered
    next hgateway =>
    rw [(hrow (not_not.mp hgateway)).1] at hdiscovered
    cases hdiscovered; cases herror

lemma discoveryPeers_ne_nil (hshared : Shared request) (h : discoveryConflicts request = []) :
    discoveryPeers request ≠ [] := by
  obtain ⟨row, hrow, hown, hbound⟩ := hshared
  have hdiscovered := discoveryRow_bound hown hbound
  have hfound := mem_filterMap.mpr ⟨row, hrow, hdiscovered⟩
  split at hfound
  · exact ne_nil_of_mem (mem_filterMap.mpr ⟨_, hfound, rfl⟩)
  · exact absurd h (ne_nil_of_mem (mem_filterMap.mpr ⟨_, hfound, rfl⟩))

lemma Peered.fits (h : Peered request reference rest recorded)
    (hfits : ∀ row ∈ request.sandboxes, Fits urls request requested route row) :
    recorded = requested ∧ Coheres urls requested.provider route reference.route := by
  obtain ⟨hmem, hown, hbound, -⟩ := mem_discoveryPeers (h.peers ▸ mem_cons_self)
  obtain ⟨gateway, hgateway, hrow⟩ := (hfits reference hmem).resolve_left hown
  cases hbound.symm.trans hgateway
  obtain ⟨hconfigured, hcoheres⟩ := hrow rfl
  exact ⟨some.inj (h.configured.symm.trans hconfigured), hcoheres⟩

/-- The first of the rows that are compared is there, or the preflight conflicts. -/
lemma exists_peered (hshared : Shared request) (h : discoveryConflicts request = []) :
    ∃ reference rest recorded, Peered request reference rest recorded := by
  obtain ⟨reference, rest, hpeers⟩ := exists_cons_of_ne_nil (discoveryPeers_ne_nil hshared h)
  obtain ⟨-, -, -, hconfigured⟩ := mem_discoveryPeers (hpeers ▸ mem_cons_self)
  obtain ⟨recorded, hrecorded⟩ := isSome_iff_exists.mp hconfigured
  exact ⟨reference, rest, recorded, h, hpeers, hrecorded⟩

lemma configuredRoute_candidate
    (hprovider : nonEmptyString request.route.provider = some recorded.provider)
    (hmodel : nonEmptyString (orRecorded request.route.model (some recorded.model)) =
      some recorded.model) :
    configuredRoute (discoveryCandidate recorded.provider recorded request.route
      reference.route) = some recorded := by
  have hself := nonEmptyString_nonEmptyString request.route.provider
  rw [hprovider] at hself
  unfold configuredRoute discoveryCandidate
  rw [hself, hmodel]

/-- A completion that coheres with the first row is like the one that is tried. -/
lemma Completes.alike_candidate (h : Completes request.route route)
    (hcoheres : Coheres urls provider route reference.route) :
    Alike urls provider (discoveryCandidate provider recorded request.route reference.route)
      route where
  credential := by
    show nonEmptyString (orRecorded _ _) = _
    rw [nonEmptyString_orRecorded]
    cases hcredential : nonEmptyString request.route.credentialEnv with
    | none => exact hcoheres.credential.symm
    | some credential => rw [h.credentialEnv (by simp [hcredential]), hcredential]; rfl
  custom := by
    intro hcustom
    obtain ⟨endpoint, api, he, he', ha, ha'⟩ := hcoheres.custom hcustom
    constructor
    · cases hendpoint : nonEmptyString request.route.endpointUrl with
      | none =>
        rw [he, ← he']
        refine routeEndpoint_congr ?_
        show nonEmptyString (orRecorded _ _) = _
        rw [nonEmptyString_orRecorded, hendpoint]; rfl
      | some url =>
        refine routeEndpoint_congr ?_
        show nonEmptyString (orRecorded _ _) = _
        rw [nonEmptyString_orRecorded, h.endpointUrl (by simp [hendpoint]), hendpoint]; rfl
    · show (nonEmptyString (orRecorded _ _)).filter _ = _
      rw [nonEmptyString_orRecorded]
      cases hapi : nonEmptyString request.route.preferredInferenceApi with
      | none => rw [ha, ← ha']; rfl
      | some text =>
        rw [normalizedInferenceApi, h.preferredInferenceApi (by simp [hapi]), hapi]; rfl

lemma Admitted.peered (h : Admitted urls request route)
    (hpeered : Peered request reference rest recorded)
    (hprovider : nonEmptyString request.route.provider = some provider) :
    configuredRoute route = some recorded ∧ provider = recorded.provider ∧
      nonEmptyString route.model = some recorded.model ∧
      Coheres urls provider route reference.route := by
  obtain ⟨requested, hconfigured, -, hfits⟩ := checkGatewayRouteCompatibility_ok.mp h.2
  obtain ⟨rfl, hcoheres⟩ := hpeered.fits hfits
  have hprovider' := configuredRoute_provider hconfigured
  rw [h.1.provider, hprovider] at hprovider'
  cases hprovider'
  refine ⟨hconfigured, rfl, ?_, hcoheres⟩
  unfold configuredRoute at hconfigured
  split at hconfigured
  · next hmodel =>
    cases hconfigured; exact hmodel
  · cases hconfigured

theorem Peered.candidate_ok (hpeered : Peered request reference rest recorded)
    (h : Admitted urls request route)
    (hprovider : nonEmptyString request.route.provider = some provider) :
    (nonEmptyString request.route.model).any (· ≠ recorded.model) = false ∧
      checkGatewayRouteCompatibility urls { request with
        route := discoveryCandidate provider recorded request.route reference.route } = .ok .ok := by
  obtain ⟨hconfigured, rfl, hmodel, hcoheres⟩ := h.peered hpeered hprovider
  have hself : nonEmptyString (some recorded.model) = some recorded.model := by
    rw [← hmodel, nonEmptyString_nonEmptyString]
  have hrequested : nonEmptyString request.route.model = none ∨
      nonEmptyString request.route.model = some recorded.model := by
    by_cases hnone : nonEmptyString request.route.model = none
    · exact .inl hnone
    · exact .inr (h.1.model hnone ▸ hmodel)
  refine ⟨by rcases hrequested with hnone | hsome <;> simp [*],
    (h.1.alike_candidate hcoheres).admitted hconfigured ?_ h.2⟩
  have hcandidate : nonEmptyString (orRecorded request.route.model (some recorded.model)) =
      some recorded.model := by
    rw [nonEmptyString_orRecorded, hself]
    rcases hrequested with hnone | hsome
    · rw [hnone]; rfl
    · rw [hsome]; rfl
  exact configuredRoute_candidate hprovider hcandidate

/-- What the preflight answers where the rows can be compared. -/
lemma Peered.preflight (h : Peered request reference rest recorded)
    (hprovider : nonEmptyString request.route.provider = some provider)
    {model endpointUrl api : Option String} :
    preflightGatewayRouteDiscovery urls request = .ok (.ok model endpointUrl api) ↔
      provider = recorded.provider ∧
      (nonEmptyString request.route.model).any (· ≠ recorded.model) = false ∧
      checkGatewayRouteCompatibility urls { request with
        route := discoveryCandidate provider recorded request.route reference.route } = .ok .ok ∧
      model = some recorded.model ∧
      endpointUrl = (if provider ∈ customRouteProviders then
        nonEmptyString reference.route.endpointUrl else none) ∧
      api = (if provider ∈ customRouteProviders then
        normalizedInferenceApi reference.route.preferredInferenceApi else none) := by
  unfold preflightGatewayRouteDiscovery
  rw [hprovider]
  dsimp only
  rw [if_neg (not_not.mpr h.conflicts), h.peers]
  dsimp only
  rw [h.configured]
  dsimp only
  split
  · next hdiffers =>
    constructor
    · intro heq; cases heq
    · rintro ⟨hsame, hmodel, -⟩
      rw [hmodel] at hdiffers; exact absurd hdiffers (by simp [hsame])
  · next hagrees =>
    obtain ⟨hsame, hmodel⟩ := not_or.mp hagrees
    rw [not_not] at hsame
    rw [Bool.not_eq_true] at hmodel
    simp only [hsame, hmodel, true_and]
    rw [← hsame]
    cases checkGatewayRouteCompatibility urls _ with
    | error e => simp
    | ok result =>
      cases result with
      | ok => simp [eq_comm]
      | conflicting _ _ _ _ => simp

/-- The request with what it lacks taken from the first row. -/
def completed (route : GatewayInferenceRoute) (recorded : ConfiguredRoute)
    (reference : GatewayInferenceRoute) : GatewayInferenceRoute where
  provider := route.provider
  model := if nonEmptyString route.model = none then some recorded.model else route.model
  endpointUrl := if nonEmptyString route.endpointUrl = none then reference.endpointUrl
    else route.endpointUrl
  preferredInferenceApi := if nonEmptyString route.preferredInferenceApi = none then
    reference.preferredInferenceApi else route.preferredInferenceApi
  credentialEnv := if nonEmptyString route.credentialEnv = none then reference.credentialEnv
    else route.credentialEnv

lemma nonEmptyString_completed (value fallback : Option String) :
    nonEmptyString (if nonEmptyString value = none then fallback else value) =
      nonEmptyString (orRecorded value fallback) := by
  rw [nonEmptyString_orRecorded]
  cases h : nonEmptyString value with
  | none => simp
  | some text => simp [h]

lemma completes_completed (route reference : GatewayInferenceRoute)
    (recorded : ConfiguredRoute) : Completes route (completed route recorded reference) where
  provider := rfl
  model := fun h => if_neg h
  endpointUrl := fun h => if_neg h
  preferredInferenceApi := fun h => if_neg h
  credentialEnv := fun h => if_neg h

/-- It is like the one that is tried. -/
lemma alike_completed {provider' : String} :
    Alike urls provider' (completed request.route recorded reference.route)
      (discoveryCandidate provider recorded request.route reference.route) where
  credential := nonEmptyString_completed ..
  custom := fun _ => ⟨routeEndpoint_congr (nonEmptyString_completed ..),
    congrArg (Option.filter (· ∈ supportedInferenceApis)) (nonEmptyString_completed ..)⟩

lemma configuredRoute_completed
    (hprovider : nonEmptyString request.route.provider = some provider) :
    configuredRoute (completed request.route recorded reference.route) =
      configuredRoute (discoveryCandidate provider recorded request.route reference.route) := by
  have hself := nonEmptyString_nonEmptyString request.route.provider
  rw [hprovider] at hself
  unfold configuredRoute discoveryCandidate completed
  rw [nonEmptyString_completed, hprovider, hself]

end Peers

/-- Where another sandbox is bound to the gateway, the preflight of a request with a provider
answers ok exactly if some completion of the request is admitted; every completion that is
then has the required model, and for a custom provider the required endpoint and API family. -/
theorem preflightGatewayRouteDiscovery_exact (urls : UrlParser)
    (request : GatewayRouteCompatibilityRequest) {provider : String}
    (hprovider : nonEmptyString request.route.provider = some provider)
    (hshared : Shared request) :
    ((∃ model endpointUrl api,
        preflightGatewayRouteDiscovery urls request = .ok (.ok model endpointUrl api)) ↔
      ∃ route, Admitted urls request route) ∧
    ∀ model endpointUrl api,
      preflightGatewayRouteDiscovery urls request = .ok (.ok model endpointUrl api) →
      ∀ route, Admitted urls request route → model ≠ none ∧ nonEmptyString route.model = model ∧
        (provider ∈ customRouteProviders →
          api ≠ none ∧ normalizedInferenceApi route.preferredInferenceApi = api ∧
          routeEndpoint urls provider route ≠ none ∧ routeEndpoint urls provider route =
            canonicalEndpoint urls endpointUrl (endpointFlavor provider)) := by
  constructor
  · constructor
    · rintro ⟨model, endpointUrl, api, hok⟩
      have hconflicts : discoveryConflicts request = [] := by
        by_contra hne
        unfold preflightGatewayRouteDiscovery at hok
        rw [hprovider] at hok
        dsimp only at hok
        rw [if_pos hne] at hok; cases hok
      obtain ⟨reference, rest, recorded, hpeered⟩ := exists_peered hshared hconflicts
      obtain ⟨-, -, hcheck, -⟩ := (hpeered.preflight hprovider).mp hok
      obtain ⟨requested, hconfigured, -⟩ := checkGatewayRouteCompatibility_ok.mp hcheck
      exact ⟨completed request.route recorded reference.route, completes_completed _ _ _,
        alike_completed.admitted hconfigured ((configuredRoute_completed hprovider).trans
          hconfigured) hcheck⟩
    · rintro ⟨route, hadmitted⟩
      obtain ⟨requested, -, -, hfits⟩ := checkGatewayRouteCompatibility_ok.mp hadmitted.2
      have hconflicts : discoveryConflicts request = [] := discoveryConflicts_nil hfits
      obtain ⟨reference, rest, recorded, hpeered⟩ := exists_peered hshared hconflicts
      obtain ⟨hmodel, hcheck⟩ := hpeered.candidate_ok hadmitted hprovider
      exact ⟨_, _, _, (hpeered.preflight hprovider).mpr
        ⟨(hadmitted.peered hpeered hprovider).2.1, hmodel, hcheck, rfl, rfl, rfl⟩⟩
  · intro model endpointUrl api hok route hadmitted
    obtain ⟨requested, -, -, hfits⟩ := checkGatewayRouteCompatibility_ok.mp hadmitted.2
    have hconflicts : discoveryConflicts request = [] := discoveryConflicts_nil hfits
    obtain ⟨reference, rest, recorded, hpeered⟩ := exists_peered hshared hconflicts
    obtain ⟨-, -, -, rfl, rfl, rfl⟩ := (hpeered.preflight hprovider).mp hok
    obtain ⟨-, -, hmodel, hcoheres⟩ := hadmitted.peered hpeered hprovider
    refine ⟨some_ne_none _, hmodel, fun hcustom => ?_⟩
    obtain ⟨endpoint, api, he, he', ha, ha'⟩ := hcoheres.custom hcustom
    rw [if_pos hcustom, if_pos hcustom, ha, ha', he, canonicalEndpoint_nonEmptyString]
    refine ⟨some_ne_none _, rfl, some_ne_none _, ?_⟩
    exact (filter_eq_some_iff.mp he').1.symm

/-- A request that has only a provider is completed from the one row there is. -/
theorem preflightGatewayRouteDiscovery_exact_custom :
    let request : GatewayRouteCompatibilityRequest :=
      ⟨"nemoclaw", some "b", ⟨some "compatible-endpoint", none, none, none, none⟩,
        [customRow "a" none "m"]⟩
    nonEmptyString request.route.provider = some "compatible-endpoint" ∧ Shared request ∧
      ∃ route, Admitted plainUrls request route := by
  intro request
  have hprovider : nonEmptyString request.route.provider = some "compatible-endpoint" := by
    decide +kernel
  have hshared : Shared request :=
    ⟨customRow "a" none "m", mem_singleton_self _, by decide, by decide +kernel⟩
  refine ⟨hprovider, hshared,
    (preflightGatewayRouteDiscovery_exact plainUrls request hprovider hshared).1.mp
      ⟨some "m", some "https://models.example", some "openai-completions", ?_⟩⟩
  decide +kernel

end NemoClaw.GatewayRoute
