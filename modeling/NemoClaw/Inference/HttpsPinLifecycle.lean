import NemoClaw.Inference.HttpsPinServer
import NemoClaw.Lib.Outcomes

/- How routes of the HTTPS pin adapter are registered and revoked.

The control token and what is known of the routes, but for their credentials, are in two
files. A registration uses the adapter that runs if it answers the challenge; otherwise it
replaces the process, and the other routes are orphans from then on. What is recorded for a
route is its generation: it is taken from the record if there is one, and is drawn anew
otherwise.

Correspondence (inference/https-pin-runtime-adapter.ts ↔ Lean): functions keep their names;
`registerRouteLocked` is what `ensureHttpsPinRuntimeAdapter` does under the lock, with what
its checks leave. `bootAdapter` and `bootFailed` are the try and the catch of
`ensureAdapterProcessLocked`. The kill of a process, the start of one and the challenge are
one call each. The port configuration, which is checked first, is left out.
-/
namespace NemoClaw.HttpsPin

open Js CallTree

/-- What the state file keeps of a route; its credential is not in it. -/
structure RoutePersistedMeta where
  providerType : HttpsPinCredentialProviderType
  generation : String
  registeredAt : String
  orphanedAt : Option String
  deriving DecidableEq

/-- The state file of the adapter. -/
structure AdapterState where
  pid : Option ℕ
  updatedAt : String
  allowedSourceCidrs : Option (List String)
  routes : List (String × RoutePersistedMeta)
  deriving DecidableEq

/-- What registering and revoking ask of their host. -/
inductive Call where
  | readTokenFile
  | writeTokenFile (token : String)
  | readStateFile
  | writeStateFile (state : AdapterState)
  | removeStateFile
  /-- `crypto.randomBytes(16)`, in hexadecimal -/
  | randomGeneration
  /-- `crypto.randomBytes(24)`, in hexadecimal -/
  | randomToken
  | probeAdapterControlHealth (controlToken : String) (sourceCidrs : List String)
  | killStaleAdapter
  | spawnAdapter (token : String) (sourceCidrs : List String)
      (orphanedRoutes : List (String × OrphanedRouteMeta))
  | persistLocalAdapterPid (pid : Option ℕ)
  | waitForAdapterHealth (token : String) (sourceCidrs : List String)
  /-- to the adapter, over the loopback address -/
  | request (req : Request)
  | loadPersistedPid
  | isAdapterProcess (pid : Option ℕ)
  | now

/-- What the host answers to each call. -/
def Call.Answer : Call → Type
  | readTokenFile => Option String
  | writeTokenFile _ => Except String Unit
  | readStateFile => Option AdapterState
  | writeStateFile _ => Except String Unit
  | removeStateFile => Unit
  | randomGeneration | randomToken => String
  | probeAdapterControlHealth _ _ => Bool
  | killStaleAdapter => Except String Unit
  -- the process id, if there is one
  | spawnAdapter _ _ _ => Option ℕ
  | persistLocalAdapterPid _ => Except String Unit
  | waitForAdapterHealth _ _ => Bool
  | request _ => Except String Response
  | loadPersistedPid => Option ℕ
  | isAdapterProcess _ => Bool
  | now => String

/-- A function of the lifecycle as a tree of calls. -/
abbrev Program (α : Type) := Tree Call Call.Answer String α

/-- The control token on disk, if there is one. -/
def readTokenFile : Program (Option String) := Tree.ask Call.readTokenFile

/-- The state file, if there is one. -/
def readStateFile : Program (Option AdapterState) := Tree.ask Call.readStateFile

/-- The state file is removed. -/
def removeStateFile : Program Unit := Tree.ask Call.removeStateFile

/-- The pid that was recorded apart from the state. -/
def loadPersistedPid : Program (Option ℕ) := Tree.ask Call.loadPersistedPid

/-- The time of the host. -/
def now : Program String := Tree.ask Call.now

/-- The control token is written, or it fails. -/
def writeTokenFile (token : String) : Program Unit := do
  let answer ← Tree.ask (Call.writeTokenFile token)
  .lift answer

/-- The state file is written, or it fails. -/
def writeStateFile (state : AdapterState) : Program Unit := do
  let answer ← Tree.ask (Call.writeStateFile state)
  .lift answer

/-- An adapter that is left is killed, or it fails. -/
def killStaleAdapter : Program Unit := do
  let answer ← Tree.ask Call.killStaleAdapter
  .lift answer

/-- The pid is recorded, or it fails. -/
def persistLocalAdapterPid (pid : Option ℕ) : Program Unit := do
  let answer ← Tree.ask (Call.persistLocalAdapterPid pid)
  .lift answer

/-- The entries that are well formed. -/
def extractPersistedRoutes (prior : Option AdapterState) : List (String × RoutePersistedMeta) :=
  (prior.elim [] (·.routes)).filter fun entry => isGeneration entry.2.generation

/-- The policy of the adapter that runs, if it was recorded. -/
def extractPersistedAllowedSourceCidrs (state : Option AdapterState) : Option (List String) :=
  (state.bind (·.allowedSourceCidrs)).filter fun cidrs =>
    cidrs ≠ [] && cidrs.all fun cidr => jsTrim cidr ≠ ""

/-- The pid of the state, or else the one that was recorded. -/
def persistedPid (prior : Option AdapterState) : Program (Option ℕ) :=
  match prior.bind (·.pid) with
  | some pid => return some pid
  | none => loadPersistedPid

/-- A route is put into the state file. -/
def persistRouteState (routeId : String) (data : RoutePersistedMeta)
    (allowedSourceCidrs : Option (List String)) : Program Unit := do
  let prior ← readStateFile
  let pid ← persistedPid prior
  let updatedAt ← now
  writeStateFile
    { pid
      updatedAt
      allowedSourceCidrs := allowedSourceCidrs.or (extractPersistedAllowedSourceCidrs prior)
      routes := setOwn (extractPersistedRoutes prior) routeId data }

/-- A route is taken out of the state file. -/
def removeRouteState (routeId : String) : Program Unit := do
  let prior ← readStateFile
  let pid ← persistedPid prior
  let updatedAt ← now
  writeStateFile
    { pid
      updatedAt
      allowedSourceCidrs := extractPersistedAllowedSourceCidrs prior
      routes := deleteKey (extractPersistedRoutes prior) routeId }

/-- The routes that a new process does not recover: all but the one it is started for. -/
def respawnedRoutes (priorRoutes : List (String × RoutePersistedMeta))
    (bootstrapRouteId : String) : List (String × RoutePersistedMeta) :=
  priorRoutes.filter fun entry =>
    entry.1 ≠ bootstrapRouteId && isGeneration entry.2.generation

/-- What a new adapter starts with, and what the file then keeps. -/
structure RespawnState where
  orphanedRoutes : List (String × OrphanedRouteMeta)
  persistedRoutes : List (String × RoutePersistedMeta)

/-- Every earlier route but the one being registered waits for its credential. -/
def computeRespawnState (priorRoutes : List (String × RoutePersistedMeta))
    (bootstrapRouteId orphanedAt : String) : RespawnState where
  orphanedRoutes := (respawnedRoutes priorRoutes bootstrapRouteId).map fun entry =>
    (entry.1, ⟨entry.2.providerType, entry.2.generation⟩)
  persistedRoutes := (respawnedRoutes priorRoutes bootstrapRouteId).map fun entry =>
    (entry.1, { entry.2 with orphanedAt := some orphanedAt })

/-- What a new process makes of the orphans it is given. -/
def parseOrphanedRoutes (routes : List (String × OrphanedRouteMeta)) :
    List (String × OrphanedRouteMeta) :=
  routes.filter fun entry => entry.1 ≠ "" && isGeneration entry.2.generation

/-- An adapter answers to the token. -/
def probeAdapter (controlToken : String) (sourceCidrs : List String) : Program Bool :=
  Tree.ask (Call.probeAdapterControlHealth controlToken sourceCidrs)

/-- The token of an adapter that is alive. -/
def findReusableAdapterControlToken (priorToken : Option String) (sourceCidrs : List String) :
    Program (Option String) :=
  match priorToken with
  | none => return none
  | some token => do
    let healthy ← probeAdapter token sourceCidrs
    return if healthy then some token else none

/-- A new adapter has come to answer. -/
def waitForAdapterHealth (token : String) (sourceCidrs : List String) : Program Bool :=
  Tree.ask (Call.waitForAdapterHealth token sourceCidrs)

/-- The process is an adapter. -/
def isAdapterProcess (pid : Option ℕ) : Program Bool := Tree.ask (Call.isAdapterProcess pid)

/-- The error of an adapter that does not answer. -/
def notHealthy : String := "HTTPS Pin Runtime adapter did not become healthy"

/-- The new process comes up, and the files are written. -/
def bootAdapter (pid : Option ℕ) (token : String) (sourceCidrs : List String)
    (persistedRoutes : List (String × RoutePersistedMeta)) : Program Unit := do
  persistLocalAdapterPid pid
  let healthy ← waitForAdapterHealth token sourceCidrs
  if ¬healthy then throw notHealthy
  else do
    writeTokenFile token
    let updatedAt ← now
    writeStateFile
      { pid, updatedAt, allowedSourceCidrs := some sourceCidrs, routes := persistedRoutes }

/-- The state file goes with the process. -/
def bootFailed (error : String) : Program String := do
  killStaleAdapter
  removeStateFile
  throw error

/-- The token of an adapter that started. -/
def booted (token : String) (result : Except String Unit) : Program String :=
  match result with
  | .ok _ => return token
  | .error error => bootFailed error

/-- The token on disk, or a new one. -/
def tokenOrRandom (priorToken : Option String) : Program String :=
  match priorToken with
  | some token => return token
  | none => Tree.ask Call.randomToken

/-- A new adapter takes the place of the old one. -/
def respawnAdapter (routeId : String) (sourceCidrs : List String) (priorToken : Option String) :
    Program String := do
  killStaleAdapter
  let token ← tokenOrRandom priorToken
  let priorState ← readStateFile
  let orphanedAt ← now
  let respawn := computeRespawnState (extractPersistedRoutes priorState) routeId orphanedAt
  let pid ← Tree.ask (Call.spawnAdapter token sourceCidrs respawn.orphanedRoutes)
  let result ← (bootAdapter pid token sourceCidrs respawn.persistedRoutes).attempt
  booted token result

/-- The adapter that is alive, or a new one. -/
def reuseOrRespawn (routeId : String) (sourceCidrs : List String) (priorToken : Option String)
    (reusable : Option String) : Program String :=
  match reusable with
  | some token => return token
  | none => respawnAdapter routeId sourceCidrs priorToken

/-- An adapter is made to run; the answer is its token. -/
def ensureAdapterProcessLocked (routeId : String) (sourceCidrs : List String) :
    Program String := do
  let priorToken ← readTokenFile
  let reusable ← findReusableAdapterControlToken priorToken sourceCidrs
  reuseOrRespawn routeId sourceCidrs priorToken reusable

/-! ## Registration -/

/-- Control requests are sent from the host itself. -/
def loopback : String := "127.0.0.1"

/-- The path of a route's control requests. -/
def controlPath (routeId : String) : String := "/control/routes/" ++ routeId

/-- A control request, with the control token. -/
def controlRequest (method controlToken routeId : String) (body : RequestBody) : Request where
  method := method
  url := controlPath routeId
  remoteAddress := some loopback
  authorization := some ("Bearer " ++ controlToken)
  xApiKey := none
  body := body

/-- A route to register, after the checks. -/
structure Registration where
  routeId : String
  endpointUrl : String
  pinnedAddresses : List String
  providerType : HttpsPinCredentialProviderType
  credentialValue : String
  allowedSourceCidrs : List String
  /-- it is a SHA-256 digest -/
  routeId_hex : isLowerHexOf 64 routeId

/-- The provider as control requests write it. -/
def providerName : HttpsPinCredentialProviderType → String
  | .openai => "openai"
  | .anthropic => "anthropic"

/-- The body of a registration. -/
def Registration.body (options : Registration) (generation : String) : RequestBody :=
  .json [("targetBaseUrl", .str options.endpointUrl),
    ("pinnedAddresses", .arr (options.pinnedAddresses.map Json.str)),
    ("providerType", .str (providerName options.providerType)),
    ("credentialValue", .str options.credentialValue), ("generation", .str generation)]

/-- Any answer but 200 is a failure. -/
def accepted (response : Response) : Program Unit :=
  if response = .ok then return () else throw "HTTPS Pin Runtime adapter rejected the request"

/-- A control request has to be accepted. -/
def sendControl (req : Request) : Program Unit := do
  let answer ← Tree.ask (Call.request req)
  let response ← Tree.lift answer
  accepted response

/-- The adapter is told a route. -/
def putRoute (controlToken generation : String) (options : Registration) : Program Unit :=
  sendControl (controlRequest "PUT" controlToken options.routeId (options.body generation))

/-- The adapter is told to drop a route. -/
def deleteRoute (controlToken routeId : String) : Program Unit :=
  sendControl (controlRequest "DELETE" controlToken routeId .invalid)

/-- A route keeps its generation when it is registered again. -/
def generationOrRandom (prior : Option RoutePersistedMeta) : Program String :=
  match prior with
  | some data => return data.generation
  | none => Tree.ask Call.randomGeneration

/-- A route is registered; the answer is its token. -/
def registerRouteLocked (platform : Platform) (options : Registration) : Program String := do
  let prior ← readStateFile
  let generation ← generationOrRandom ((extractPersistedRoutes prior).lookup options.routeId)
  let controlToken ← ensureAdapterProcessLocked options.routeId options.allowedSourceCidrs
  putRoute controlToken generation options
  let registeredAt ← now
  persistRouteState options.routeId ⟨options.providerType, generation, registeredAt, none⟩
    (some options.allowedSourceCidrs)
  return deriveRouteToken platform controlToken options.routeId generation

/-- The adapter that runs is the one of the files. -/
def authenticateLiveAdapter (controlToken : Option String) (sourceCidrs : Option (List String)) :
    Program Bool :=
  match controlToken, sourceCidrs with
  | some token, some cidrs => probeAdapter token cidrs
  | _, _ => return false

/-- The error of an adapter that is not known. -/
def cannotAuthenticate : String :=
  "Cannot authenticate the live HTTPS Pin Runtime adapter for revocation."

/-- Without an adapter there is nothing to delete. -/
def refuseIfPresent (controlToken : Option String) (pid : Option ℕ) : Program Unit :=
  if controlToken.isSome then throw cannotAuthenticate
  else do
    let present ← isAdapterProcess pid
    if present then throw cannotAuthenticate else return ()

/-- The route is dropped where an adapter runs. -/
def deleteLive (live : Bool) (controlToken : Option String) (pid : Option ℕ) (routeId : String) :
    Program Unit :=
  match live, controlToken with
  | true, some token => deleteRoute token routeId
  | _, _ => refuseIfPresent controlToken pid

/-- A route is revoked; the answer is whether it was there. -/
def revokeRouteLocked (routeId : String) : Program Bool := do
  let pid ← loadPersistedPid
  let controlToken ← readTokenFile
  let state ← readStateFile
  let live ← authenticateLiveAdapter controlToken (extractPersistedAllowedSourceCidrs state)
  deleteLive live controlToken pid routeId
  removeRouteState routeId
  return true

/-- The revocation, for an id that is one. -/
def revokeHttpsPinRuntimeAdapterRoute (routeId : String) : Program Bool :=
  if isLowerHexOf 64 routeId = false then
    throw "Refusing to revoke an invalid HTTPS Pin Runtime route id."
  else revokeRouteLocked routeId

section Control

variable {platform : Platform} {adapter adapter' : Adapter} {routeId : String}

lemma controlMatch_controlPath (hid : isLowerHexOf 64 routeId) :
    controlMatch (controlPath routeId) = some routeId := by
  obtain ⟨hlength, hall⟩ := Bool.and_eq_true_iff.mp hid
  have hnonempty : routeId.toList ≠ [] := by
    intro hnil; simp [hnil] at hlength
  have hslash : '/' ∉ routeId.toList := by
    intro hmem
    have hhex := List.all_eq_true.mp hall '/' hmem
    revert hhex; decide
  have htext : textAfter "/control/routes/".toList (controlPath routeId).toList =
      some routeId.toList := by
    unfold textAfter controlPath
    rw [String.toList_append, if_pos ( List.isPrefixOf_iff_prefix.mpr (List.prefix_append _ _))]
    simp
  unfold controlMatch
  simp only [htext, Option.bind_some]
  rw [if_neg (not_or.mpr ⟨hnonempty, hslash⟩), String.ofList_toList]

lemma handle_controlRequest {method controlToken : String} {body : RequestBody}
    (hurl : platform.requestUrl (controlPath routeId) = some (controlPath routeId, ""))
    (hid : isLowerHexOf 64 routeId) (hmethod : method = "PUT" ∨ method = "DELETE") :
    adapter.handle platform (controlRequest method controlToken routeId body) =
      adapter.handleControl platform routeId
        (controlRequest method controlToken routeId body) := by
  have hmatch := controlMatch_controlPath hid
  cases hmethod with
  | inl hput =>
    subst hput; simp [Adapter.handle, Adapter.handleElsewhere, controlRequest, hurl, hmatch]
  | inr hdelete =>
    subst hdelete
    simp [Adapter.handle, Adapter.handleElsewhere, controlRequest, hurl, hmatch]

lemma handleControl_controlRequest {method controlToken : String} {body : RequestBody}
    {response : Response}
    (h : adapter.handleControl platform routeId
      (controlRequest method controlToken routeId body) = (adapter', response)) :
    adapter' = adapter ∨ adapter.controlToken = controlToken ∧
      (adapter' = adapter.deleteRoute routeId ∨ ∃ fields, ∃ route : RouteRuntime,
        body = .json fields ∧ route.generation = jsonString fields "generation" ∧
        isGeneration route.generation ∧ adapter' = adapter.setRoute routeId route) := by
  cases handleControl_changes h with
  | inl hsame => exact .inl hsame
  | inr hchanged =>
  obtain ⟨-, hauth, hchange⟩ := hchanged
  have htoken : adapter.controlToken = controlToken := by
    simp only [controlRequest, authMatches, Option.any_some, Bool.and_eq_true,
      decide_eq_true_eq] at hauth
    exact (String.append_right_inj _).mp hauth.2.symm
  refine .inr ⟨htoken, ?_⟩
  cases hchange with
  | inl hdelete => exact .inl hdelete
  | inr hput =>
    obtain ⟨fields, route, hjson, hparse, hset⟩ := hput
    obtain ⟨hgeneration, hvalid⟩ := parseRoutePutBody_generation hparse
    exact .inr ⟨fields, route, hjson, hgeneration, hvalid, hset⟩

end Control

end NemoClaw.HttpsPin
