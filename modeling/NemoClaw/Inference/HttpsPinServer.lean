import NemoClaw.Js.Object
import NemoClaw.Js.Text

/- The HTTPS pin adapter: one process that serves many routes.

A route names an endpoint, the addresses it was resolved to and the credential for it. The
routes are in memory; they are put and deleted over the control plane, from the loopback
address and with the control token. A sandbox reaches a route by its path, with a token
that is derived from the control token, the route id and the generation of the route. A
route that was there before a restart and was not put again is an orphan.

Correspondence (inference/https-pin-runtime-adapter.ts, https-pin-runtime.ts ↔ Lean):
functions keep their names; `handle` is the callback of `createHttpsPinRuntimeAdapterServer`
and its parts. HMAC, the URL parser and the block list are fields of `Platform`. A request
has the headers that are looked at, and a body as far as JSON.parse gets with it; logging
is left out.
-/
namespace NemoClaw.HttpsPin

open Js

/-- The build of an adapter. -/
structure AdapterIdentity where
  protocolVersion : String
  buildId : String
  deriving DecidableEq

/-- What the server uses and is not modelled: hashing, URLs, addresses. -/
structure Platform where
  /-- HMAC-SHA-256, in hexadecimal -/
  hmac : String → String → String
  /-- `pathname` and `search` of `new URL(req.url, "http://127.0.0.1")` -/
  requestUrl : String → Option (String × String)
  /-- `pathname` of an HTTPS URL without user, query and fragment -/
  endpointPathname : String → Option String
  /-- `new URL(joined, "http://adapter.invalid").pathname` -/
  canonicalPathname : String → Option String
  /-- the address is in one of the subnets -/
  inSubnets : List String → String → Bool
  /-- `CURRENT_ADAPTER_IDENTITY` -/
  currentIdentity : AdapterIdentity

/-- The protocol a route speaks. -/
inductive HttpsPinCredentialProviderType where
  | openai
  | anthropic
  deriving DecidableEq

/-- The header that carries a credential. -/
structure HttpsPinCredentialHeader where
  name : String
  value : String
  deriving DecidableEq

/-- The header in which a provider expects its credential. -/
def resolveHttpsPinCredentialHeader (providerType : HttpsPinCredentialProviderType)
    (credentialValue : String) : HttpsPinCredentialHeader :=
  match providerType with
  | .anthropic => ⟨"x-api-key", credentialValue⟩
  | .openai => ⟨"authorization", "Bearer " ++ credentialValue⟩

/-- What a route forwards to, and with which credential. -/
structure RouteRuntime where
  targetBaseUrl : String
  pinnedAddresses : List String
  providerType : HttpsPinCredentialProviderType
  credentialValue : String
  generation : String
  deriving DecidableEq

/-- A route that a new adapter knows of, without its credential. -/
structure OrphanedRouteMeta where
  providerType : HttpsPinCredentialProviderType
  generation : String
  deriving DecidableEq

/-- The state of the server. -/
structure Adapter where
  controlToken : String
  allowedSourceCidrs : List String
  identity : AdapterIdentity
  routes : List (String × RouteRuntime)
  orphanedRoutes : List (String × OrphanedRouteMeta)
  deriving DecidableEq

/-! ## Requests -/

/-- What a request's body reads as. -/
inductive RequestBody where
  | tooLarge
  /-- not JSON, or not an object -/
  | invalid
  | json (fields : List (String × Json))

/-- A request, as far as the server looks at it. -/
structure Request where
  method : String
  url : String
  remoteAddress : Option String
  authorization : Option String
  xApiKey : Option String
  body : RequestBody

/-- Where a request is sent, and with which credential. -/
structure HttpsPinTarget where
  targetUrl : String
  pinnedAddress : Option String
  credential : HttpsPinCredentialHeader
  deriving DecidableEq

/-- The answer to a request. -/
inductive Response where
  | ok
  /-- a status, and the code in the body -/
  | failed (status : ℕ) (code : String)
  /-- sent on to the target, with the answer of the target -/
  | forwarded (target : HttpsPinTarget) (path : String)
  deriving DecidableEq

/-- The header is the token as a bearer. -/
def authMatches (header : Option String) (token : String) : Bool :=
  header.any fun header => header ≠ "" && header = "Bearer " ++ token

/-- The header is the token. -/
def rawTokenMatches (header : Option String) (token : String) : Bool :=
  header.any fun header => header ≠ "" && header = token

/-- The request has the route's token, where its provider puts it. -/
def routeAuthMatches (req : Request) (token : String) :
    HttpsPinCredentialProviderType → Bool
  | .anthropic => rawTokenMatches req.xApiKey token
  | .openai => authMatches req.authorization token

/-- What follows the start of a text. -/
def textAfter (start : List Char) (text : List Char) : Option (List Char) :=
  if start.isPrefixOf text then some (text.drop start.length) else none

/-- `remoteAddress.replace(/^::ffff:/, "")`. -/
def unmapped (remoteAddress : String) : String :=
  String.ofList ((textAfter "::ffff:".toList remoteAddress.toList).getD remoteAddress.toList)

/-- The request is from the host itself. -/
def isLoopbackRemoteAddress (remoteAddress : Option String) : Bool :=
  remoteAddress.any fun address => unmapped address = "127.0.0.1" || unmapped address = "::1"

/-- `matches` of `buildAllowedRouteSourceMatcher`. -/
def allowedRouteSource (platform : Platform) (cidrs : List String)
    (remoteAddress : Option String) : Bool :=
  isLoopbackRemoteAddress remoteAddress ||
    remoteAddress.any fun address => platform.inSubnets cidrs (unmapped address)

/-- The null character. -/
def nul : String := String.ofList [Char.ofNat 0]

/-- The token of a route, of which every generation has its own. -/
def deriveRouteToken (platform : Platform) (controlToken routeId generation : String) : String :=
  platform.hmac controlToken ("nemoclaw:https-pin-route:v2" ++ nul ++ routeId ++ nul ++ generation)

/-- `/^\/control\/routes\/([^/]+)$/`. -/
def controlMatch (pathname : String) : Option String :=
  (textAfter "/control/routes/".toList pathname.toList).bind fun id =>
    if id = [] ∨ '/' ∈ id then none else some (String.ofList id)

/-- What a dot of a pattern does not match. -/
def isLineTerminator (c : Char) : Bool := c.val ∈ [0x0A, 0x0D, 0x2028, 0x2029]

/-- `/^\/route\/([^/]+)(\/.*)?$/`: the route id, and the rest of the path. -/
def routeMatch (pathname : String) : Option (String × Option String) :=
  (textAfter "/route/".toList pathname.toList).bind fun text =>
    let id := text.takeWhile (· ≠ '/')
    let rest := text.dropWhile (· ≠ '/')
    if id = [] ∨ rest.any isLineTerminator then none
    else some (String.ofList id, if rest = [] then none else some (String.ofList rest))

/-- `/%(?:2e|2f|5c|25)/i`. -/
def hasEncodedDelimiter : List Char → Bool
  | '%' :: c :: d :: rest =>
    ([['2', 'e'], ['2', 'f'], ['5', 'c'], ['2', '5']].any fun code =>
        code = [c.toLower, d.toLower]) ||
      hasEncodedDelimiter (c :: d :: rest)
  | _ :: rest => hasEncodedDelimiter rest
  | [] => false

/-- `/(?:^|\/)\.{1,2}(?:\/|$)/u`. -/
def hasDotSegment (path : List Char) : Bool :=
  (path.splitOn '/').any fun segment => segment = ['.'] || segment = ['.', '.']

/-- The answer to a path that is not forwarded. -/
def routePathNotFound : Response := .failed 404 "route_path_not_found"

/-- `pathname.replace(/\/+$/, "") || "/"`. -/
def withoutTrailingSlashes (pathname : String) : String :=
  let kept := String.ofList (pathname.toList.reverse.dropWhile (· = '/')).reverse
  if kept = "" then "/" else kept

/-- The segment `/v1` of the gateway is part of the base already. -/
def translatedSuffix (route : RouteRuntime) (targetPath suffix : String) : String :=
  if targetPath ≠ "/" ∧ route.providerType = .openai ∧
      (suffix = "/v1" ∨ (textAfter "/v1/".toList suffix.toList).isSome) then
    String.ofList (suffix.toList.drop 3)
  else suffix

/-- The path, if it stays under the target's; a text that is no URL fails in the parser. -/
def containedPath (platform : Platform) (targetPath joined : String) : Except Response String :=
  match platform.canonicalPathname joined with
  | none => .error (.failed 502 "https_pin_runtime_error")
  | some canonical =>
    if canonical = joined ∧ (targetPath = "/" ∨ canonical = targetPath ∨
        (textAfter (targetPath ++ "/").toList canonical.toList).isSome) then .ok canonical
    else .error routePathNotFound

/-- The target's path with the suffix behind it. -/
def joinedPath (route : RouteRuntime) (targetPath normalizedSuffix : String) : String :=
  let suffix := if normalizedSuffix = "/" then "" else normalizedSuffix
  let translated := translatedSuffix route targetPath suffix
  if targetPath = "/" then (if translated = "" then "/" else translated)
  else targetPath ++ translated

/-- The path that is forwarded, which may not leave the target's. -/
def buildContainedForwardPath (platform : Platform) (route : RouteRuntime)
    (normalizedSuffix search rawRequestTarget : String) : Except Response String :=
  let rawPath := rawRequestTarget.toList.takeWhile (· ≠ '?')
  if hasEncodedDelimiter rawPath || hasDotSegment rawPath || '\\' ∈ rawPath ||
      Char.ofNat 0 ∈ rawPath then .error routePathNotFound
  else match platform.endpointPathname route.targetBaseUrl with
    | none => .error (.failed 502 "https_pin_runtime_error")
    | some pathname =>
      let targetPath := withoutTrailingSlashes pathname
      match containedPath platform targetPath (joinedPath route targetPath normalizedSuffix) with
      | .error response => .error response
      | .ok canonical => .ok (canonical ++ search)

/-! ## The control plane -/

/-- A field that is a string, and else the empty one. -/
def jsonString (fields : List (String × Json)) (name : String) : String :=
  match fields.lookup name with
  | some (.str s) => s
  | _ => ""

/-- The provider of a registration. -/
def parseProviderType (fields : List (String × Json)) : Option HttpsPinCredentialProviderType :=
  match fields.lookup "providerType" with
  | some (.str "anthropic") => some .anthropic
  | some (.str "openai") => some .openai
  | _ => none

/-- The addresses of a registration, empty ones aside. -/
def parsePinnedAddresses (fields : List (String × Json)) : List String :=
  match fields.lookup "pinnedAddresses" with
  | some (.arr entries) => entries.filterMap fun entry =>
      match entry with
      | .str s => if s = "" then none else some s
      | _ => none
  | _ => []

/-- 32 lower-case hex digits. -/
def isGeneration (generation : String) : Bool := isLowerHexOf 32 generation

/-- The answer to a registration that is not one. -/
def invalidRoute : Response := .failed 400 "invalid_route"

/-- The route of a registration. -/
def parseRoutePutBody (platform : Platform) (raw : List (String × Json)) :
    Except Response RouteRuntime :=
  let targetBaseUrl := jsTrim (jsonString raw "targetBaseUrl")
  let credentialValue := jsonString raw "credentialValue"
  let generation := jsonString raw "generation"
  let pinnedAddresses := parsePinnedAddresses raw
  match parseProviderType raw with
  | none => .error invalidRoute
  | some providerType =>
    if targetBaseUrl = "" ∨ credentialValue = "" ∨ pinnedAddresses = [] ∨
        isGeneration generation = false then .error invalidRoute
    else if platform.endpointPathname targetBaseUrl = none then .error invalidRoute
    else .ok { targetBaseUrl, pinnedAddresses, providerType, credentialValue, generation }

/-- The fields of a control request. -/
def readControlRequestJson (body : RequestBody) : Except Response (List (String × Json)) :=
  match body with
  | .tooLarge => .error (.failed 413 "request_too_large")
  | .invalid => .error (.failed 400 "invalid_json")
  | .json fields => .ok fields

/-- The answer to what the server does not have. -/
def notFound : Response := .failed 404 "not_found"

/-- The answer to a wrong token. -/
def unauthorized : Response := .failed 401 "unauthorized"

/-- What the challenge is answered with is left out. -/
def handleControlHealth (req : Request) : Response :=
  if ¬isLoopbackRemoteAddress req.remoteAddress then notFound else .ok

namespace Adapter

variable (platform : Platform) (adapter : Adapter)

/-- The adapter without a route. -/
def deleteRoute (routeId : String) : Adapter :=
  { adapter with
    routes := deleteKey adapter.routes routeId
    orphanedRoutes := deleteKey adapter.orphanedRoutes routeId }

/-- The adapter with a route. -/
def setRoute (routeId : String) (route : RouteRuntime) : Adapter :=
  { adapter with routes := setOwn adapter.routes routeId route }

/-- A registration. -/
def putRoute (routeId : String) (body : RequestBody) : Adapter × Response :=
  match readControlRequestJson body with
  | .error response => (adapter, response)
  | .ok fields =>
    match parseRoutePutBody platform fields with
    | .error response => (adapter, response)
    | .ok route => (adapter.setRoute routeId route, .ok)

/-- A control request, from the host and with the control token only. -/
def handleControl (routeId : String) (req : Request) : Adapter × Response :=
  if ¬isLoopbackRemoteAddress req.remoteAddress then (adapter, notFound)
  else if ¬authMatches req.authorization adapter.controlToken then (adapter, unauthorized)
  else if req.method = "DELETE" then (adapter.deleteRoute routeId, .ok)
  else if req.method ≠ "PUT" then (adapter, notFound)
  else adapter.putRoute platform routeId req.body

/-- A request is sent to the route's target, if its path may be. -/
def forward (route : RouteRuntime) (suffix search : String) (req : Request) : Response :=
  match buildContainedForwardPath platform route suffix search req.url with
  | .error response => response
  | .ok path => .forwarded ⟨route.targetBaseUrl, route.pinnedAddresses.head?,
      resolveHttpsPinCredentialHeader route.providerType route.credentialValue⟩ path

/-- The request has the token of the route's generation. -/
def authenticated (routeId : String) (providerType : HttpsPinCredentialProviderType)
    (generation : String) (req : Request) : Bool :=
  generation ≠ "" && routeAuthMatches req
    (deriveRouteToken platform adapter.controlToken routeId generation) providerType

/-- A request for a route, from an allowed source only. -/
def handleRoute (routeId : String) (suffix : Option String) (search : String) (req : Request) :
    Response :=
  if ¬allowedRouteSource platform adapter.allowedSourceCidrs req.remoteAddress then notFound
  else match adapter.routes.lookup routeId, adapter.orphanedRoutes.lookup routeId with
    | some route, _ =>
      if ¬adapter.authenticated platform routeId route.providerType route.generation req then
        unauthorized
      else forward platform route (suffix.getD "/") search req
    | none, some orphan =>
      if ¬adapter.authenticated platform routeId orphan.providerType orphan.generation req then
        unauthorized
      else .failed 503 "route_needs_recovery"
    | none, none => .failed 404 "route_not_found"

/-- A request for the adapter's health. -/
def handleHealth (req : Request) : Response :=
  if allowedRouteSource platform adapter.allowedSourceCidrs req.remoteAddress then .ok
  else notFound

/-- A request that is not about health. -/
def handleElsewhere (pathname search : String) (req : Request) : Adapter × Response :=
  if req.method = "TRACE" ∨ req.method = "TRACK" then (adapter, .failed 405 "method_not_allowed")
  else match controlMatch pathname with
    | some routeId => adapter.handleControl platform routeId req
    | none =>
      match routeMatch pathname with
      | some (routeId, suffix) => (adapter, adapter.handleRoute platform routeId suffix search req)
      | none => (adapter, notFound)

/-- A request to the server. -/
def handle (req : Request) : Adapter × Response :=
  match platform.requestUrl req.url with
  | none => (adapter, .failed 502 "https_pin_runtime_error")
  | some (pathname, search) =>
    if req.method = "GET" ∧ pathname = "/health" then (adapter, adapter.handleHealth platform req)
    else if req.method = "GET" ∧ pathname = "/control/health" then
      (adapter, handleControlHealth req)
    else adapter.handleElsewhere platform pathname search req

end Adapter

section Requests

variable {platform : Platform} {adapter adapter' : Adapter} {req : Request} {response : Response}
  {routeId : String}

lemma handleControl_changes
    (h : adapter.handleControl platform routeId req = (adapter', response)) :
    adapter' = adapter ∨
      isLoopbackRemoteAddress req.remoteAddress ∧
      authMatches req.authorization adapter.controlToken ∧
      (adapter' = adapter.deleteRoute routeId ∨ ∃ fields route,
        req.body = .json fields ∧ parseRoutePutBody platform fields = .ok route ∧
        adapter' = adapter.setRoute routeId route) := by
  unfold Adapter.handleControl at h
  split at h
  · exact .inl (Prod.mk.inj h).1.symm
  next hloopback =>
  split at h
  · exact .inl (Prod.mk.inj h).1.symm
  next hauth =>
  have hfrom : isLoopbackRemoteAddress req.remoteAddress := by simpa using hloopback
  have hwith : authMatches req.authorization adapter.controlToken := by simpa using hauth
  split at h
  · exact .inr ⟨hfrom, hwith, .inl (Prod.mk.inj h).1.symm⟩
  split at h
  · exact .inl (Prod.mk.inj h).1.symm
  unfold Adapter.putRoute readControlRequestJson at h
  cases hbody : req.body with
  | tooLarge => simp only [hbody] at h; exact .inl (Prod.mk.inj h).1.symm
  | invalid => simp only [hbody] at h; exact .inl (Prod.mk.inj h).1.symm
  | json fields =>
    simp only [hbody] at h
    cases hparse : parseRoutePutBody platform fields with
    | error e => simp only [hparse] at h; exact .inl (Prod.mk.inj h).1.symm
    | ok route =>
      simp only [hparse] at h
      exact .inr ⟨hfrom, hwith, .inr ⟨fields, route, rfl, hparse, (Prod.mk.inj h).1.symm⟩⟩

lemma handle_control (h : adapter.handle platform req = (adapter', response)) :
    adapter' = adapter ∨ ∃ routeId,
      adapter.handleControl platform routeId req = (adapter', response) := by
  unfold Adapter.handle at h
  split at h
  · exact .inl (Prod.mk.inj h).1.symm
  split at h
  · exact .inl (Prod.mk.inj h).1.symm
  split at h
  · exact .inl (Prod.mk.inj h).1.symm
  unfold Adapter.handleElsewhere at h
  split at h
  · exact .inl (Prod.mk.inj h).1.symm
  split at h
  · next routeId _ => exact .inr ⟨routeId, h⟩
  · split at h <;> exact .inl (Prod.mk.inj h).1.symm

lemma handle_changes (h : adapter.handle platform req = (adapter', response)) :
    adapter' = adapter ∨
      isLoopbackRemoteAddress req.remoteAddress ∧
      authMatches req.authorization adapter.controlToken := by
  cases handle_control h with
  | inl hsame => exact .inl hsame
  | inr hcontrol =>
  obtain ⟨routeId, hcontrol⟩ := hcontrol
  cases handleControl_changes hcontrol with
  | inl hsame => exact .inl hsame
  | inr hchanged => exact .inr ⟨hchanged.1, hchanged.2.1⟩

lemma handle_unput (hmethod : req.method ≠ "PUT")
    (h : adapter.handle platform req = (adapter', response)) :
    adapter' = adapter ∨ ∃ routeId, adapter' = adapter.deleteRoute routeId := by
  cases handle_control h with
  | inl hsame => exact .inl hsame
  | inr hcontrol =>
  obtain ⟨routeId, hcontrol⟩ := hcontrol
  unfold Adapter.handleControl at hcontrol
  split at hcontrol
  · exact .inl (Prod.mk.inj hcontrol).1.symm
  split at hcontrol
  · exact .inl (Prod.mk.inj hcontrol).1.symm
  split at hcontrol
  · exact .inr ⟨routeId, (Prod.mk.inj hcontrol).1.symm⟩
  · exact .inl (Prod.mk.inj hcontrol).1.symm

/-- What answers the request came from the control plane or refused it. -/
lemma handleControl_forwards {target : HttpsPinTarget} {path : String} :
    adapter.handleControl platform routeId req ≠ (adapter', .forwarded target path) := by
  intro h
  unfold Adapter.handleControl notFound unauthorized at h
  split at h
  · cases h
  split at h
  · cases h
  split at h
  · cases h
  split at h
  · cases h
  unfold Adapter.putRoute at h
  split at h
  · next e hread =>
    have hresponse := (Prod.mk.inj h).2
    unfold readControlRequestJson at hread
    split at hread
    · cases hread; cases hresponse
    · cases hread; cases hresponse
    · cases hread
  split at h
  · next e hparse =>
    have hresponse := (Prod.mk.inj h).2
    unfold parseRoutePutBody invalidRoute at hparse
    dsimp only at hparse
    split at hparse
    · cases hparse; cases hresponse
    split at hparse
    · cases hparse; cases hresponse
    split at hparse
    · cases hparse; cases hresponse
    · cases hparse
  · cases h

/-- The route of the path, what was registered for it, and who may use it. -/
structure Forwards (platform : Platform) (adapter : Adapter) (req : Request)
    (target : HttpsPinTarget) : Prop where
  route : ∃ pathname search routeId suffix route,
    platform.requestUrl req.url = some (pathname, search) ∧
    routeMatch pathname = some (routeId, suffix) ∧
    adapter.routes.lookup routeId = some route ∧
    routeAuthMatches req (deriveRouteToken platform adapter.controlToken routeId
      route.generation) route.providerType ∧
    target = ⟨route.targetBaseUrl, route.pinnedAddresses.head?,
      resolveHttpsPinCredentialHeader route.providerType route.credentialValue⟩
  source : allowedRouteSource platform adapter.allowedSourceCidrs req.remoteAddress

lemma containedPath_error {targetPath joined : String}
    (h : containedPath platform targetPath joined = .error response) :
    ∃ status code, response = .failed status code := by
  unfold containedPath routePathNotFound at h
  split at h
  · exact ⟨_, _, (Except.error.inj h).symm⟩
  split at h
  · cases h
  · exact ⟨_, _, (Except.error.inj h).symm⟩

lemma forward_target {route : RouteRuntime} {suffix search path : String}
    {target : HttpsPinTarget} (h : Adapter.forward platform route suffix search req =
      .forwarded target path) :
    target = ⟨route.targetBaseUrl, route.pinnedAddresses.head?,
      resolveHttpsPinCredentialHeader route.providerType route.credentialValue⟩ := by
  unfold Adapter.forward at h
  split at h
  · next e hpath =>
    unfold buildContainedForwardPath routePathNotFound at hpath
    dsimp only at hpath
    subst h
    split at hpath
    · cases hpath
    split at hpath
    · cases hpath
    split at hpath
    · next hcontained =>
      obtain ⟨status, code, hfailed⟩ := containedPath_error hcontained
      rw [hfailed] at hpath; cases hpath
    · cases hpath
  · cases h; rfl

lemma handleRoute_forwards {suffix : Option String} {search path : String}
    {target : HttpsPinTarget}
    (h : adapter.handleRoute platform routeId suffix search req = .forwarded target path) :
    allowedRouteSource platform adapter.allowedSourceCidrs req.remoteAddress ∧
      ∃ route, adapter.routes.lookup routeId = some route ∧
        routeAuthMatches req (deriveRouteToken platform adapter.controlToken routeId
          route.generation) route.providerType ∧
        target = ⟨route.targetBaseUrl, route.pinnedAddresses.head?,
          resolveHttpsPinCredentialHeader route.providerType route.credentialValue⟩ := by
  unfold Adapter.handleRoute notFound unauthorized at h
  split at h
  · cases h
  next hsource =>
  refine ⟨by simpa using hsource, ?_⟩
  cases hroute : adapter.routes.lookup routeId with
  | some route =>
    simp only [hroute] at h
    split at h
    · cases h
    next hauth =>
    have hauthenticated : adapter.authenticated platform routeId route.providerType
        route.generation req := by simpa using hauth
    exact ⟨route, rfl, (Bool.and_eq_true_iff.mp hauthenticated).2, forward_target h⟩
  | none =>
    simp only [hroute] at h
    split at h
    · next heq => cases heq
    · split at h <;> cases h
    · cases h

/-- A request is sent on only to the route of its path, from an allowed source and with the
token of that route. -/
lemma handle_forwards {target : HttpsPinTarget} {path : String}
    (h : adapter.handle platform req = (adapter', .forwarded target path)) :
    adapter' = adapter ∧ Forwards platform adapter req target := by
  unfold Adapter.handle at h
  split at h
  · cases h
  next pathname search hurl =>
  split at h
  · unfold Adapter.handleHealth notFound at h
    split at h <;> cases h
  split at h
  · unfold handleControlHealth notFound at h
    split at h <;> cases h
  unfold Adapter.handleElsewhere at h
  split at h
  · cases h
  split at h
  · exact absurd h handleControl_forwards
  split at h
  · next routeId suffix hmatch =>
    obtain ⟨rfl, hroute⟩ := Prod.mk.inj h
    obtain ⟨hsource, route, hlookup, hauth, htarget⟩ := handleRoute_forwards hroute
    exact ⟨rfl, ⟨⟨pathname, search, routeId, suffix, route, hurl, hmatch, hlookup, hauth,
      htarget⟩, hsource⟩⟩
  · cases h

lemma textAfter_eq {start text rest : List Char} (h : textAfter start text = some rest) :
    text = start ++ rest := by
  unfold textAfter at h
  split at h
  · next hpre =>
    obtain ⟨tail, rfl⟩ := List.isPrefixOf_iff_prefix.mp hpre
    cases h; simp
  · cases h

/-- The path of a route is no other path that the adapter knows. -/
lemma routeMatch_elsewhere {pathname : String} {found : String × Option String}
    (h : routeMatch pathname = some found) :
    pathname ≠ "/health" ∧ pathname ≠ "/control/health" ∧ controlMatch pathname = none := by
  obtain ⟨text, htext, -⟩ := Option.bind_eq_some_iff.mp h
  have hpath := textAfter_eq htext
  refine ⟨?_, ?_, ?_⟩
  · intro heq
    rw [heq] at hpath; simp at hpath
  · intro heq
    rw [heq] at hpath; simp at hpath
  · unfold controlMatch
    cases hcontrol : textAfter "/control/routes/".toList pathname.toList with
    | none => rfl
    | some rest =>
      have hother := textAfter_eq hcontrol
      rw [hpath] at hother; simp at hother

lemma handle_recovery {pathname search : String} {suffix : Option String}
    {orphan : OrphanedRouteMeta} (hurl : platform.requestUrl req.url = some (pathname, search))
    (hmethod : req.method ≠ "TRACE" ∧ req.method ≠ "TRACK")
    (hmatch : routeMatch pathname = some (routeId, suffix))
    (hsource : allowedRouteSource platform adapter.allowedSourceCidrs req.remoteAddress)
    (hroute : adapter.routes.lookup routeId = none)
    (horphan : adapter.orphanedRoutes.lookup routeId = some orphan)
    (hauth : adapter.authenticated platform routeId orphan.providerType orphan.generation req =
      true) :
    adapter.handle platform req = (adapter, .failed 503 "route_needs_recovery") := by
  obtain ⟨hhealth, hcontrol, hnone⟩ := routeMatch_elsewhere hmatch
  simp [Adapter.handle, Adapter.handleElsewhere, Adapter.handleRoute, hurl, hhealth, hcontrol,
    hmethod.1, hmethod.2, hnone, hmatch, hsource, hroute, horphan, hauth]

lemma parseRoutePutBody_generation {fields : List (String × Json)} {route : RouteRuntime}
    (h : parseRoutePutBody platform fields = .ok route) :
    route.generation = jsonString fields "generation" ∧ isGeneration route.generation := by
  unfold parseRoutePutBody at h
  dsimp only at h
  split at h
  · cases h
  split at h
  · cases h
  next hvalid =>
  split at h
  · cases h
  cases h; simp only [not_or, Bool.not_eq_false] at hvalid; exact ⟨rfl, hvalid.2.2.2⟩

lemma handleControl_delete (hmethod : req.method = "DELETE")
    (h : adapter.handleControl platform routeId req = (adapter', .ok)) :
    adapter' = adapter.deleteRoute routeId := by
  unfold Adapter.handleControl notFound unauthorized at h
  rw [if_pos hmethod] at h
  split at h
  · cases h
  split at h
  · cases h
  exact (Prod.mk.inj h).1.symm

end Requests

end NemoClaw.HttpsPin
