import NemoClaw.Inference.HttpsPinRegistered

/- The routes of the HTTPS pin adapter stay apart, and the revocation of one is final.

In a history routes are registered and revoked, processes are started and crash, and
anybody sends requests; a command can be cut after any of its calls. What is kept of it is
which tokens were issued for which route, which of them were issued before a revocation of
their route that completed, and the registrations a route can still be served for. All
generations that were drawn before a revocation are dead for its route from then on.

What is provided:
  1. `Reaches` — the histories.
  2. `Accounts` — every token that was issued belongs to a generation, and those that are
     revoked to one that is dead; every route was put by a registration that is current.
  3. `adapter_finalRevocation` — whom the adapter serves, in every state that is reached.
-/
namespace NemoClaw.HttpsPin

open Js CallTree List

structure Ledger where
  issued : List (String × String)
  revoked : List (String × String)
  /-- for each id the registration that completed last, if it was not revoked, and those that
  were tried since -/
  current : List Registration

namespace Ledger

def empty : Ledger := ⟨[], [], []⟩

/-- A registration that fails may have put its route before. -/
def attempt (ledger : Ledger) (options : Registration) : Ledger :=
  { ledger with current := options :: ledger.current }

def register (ledger : Ledger) (options : Registration) (token : String) : Ledger :=
  { ledger with
    issued := (options.routeId, token) :: ledger.issued
    current := options.replaces ledger.current }

def revoke (ledger : Ledger) (routeId : String) : Ledger :=
  { ledger with
    revoked := ledger.issued.filter (·.1 = routeId) ++ ledger.revoked
    current := ledger.current.filter (·.routeId ≠ routeId) }

end Ledger

def PinHost.empty : PinHost := ⟨none, none, none, none, [], []⟩

/-- What a history can come to. -/
inductive Reaches (platform : Platform) : PinHost → Ledger → Prop
  | start : Reaches platform .empty .empty
  | disturbed {s s' : PinHost} {ledger : Ledger} :
    Reaches platform s ledger → Disturbs platform s s' → Reaches platform s' ledger
  /-- a registration that fails, or is cut -/
  | registering {s s' : PinHost} {ledger : Ledger} (options : Registration) :
    Reaches platform s ledger →
    Passes (PinCan platform) s (registerRouteLocked platform options) s' →
    Reaches platform s' (ledger.attempt options)
  | registered {s s' : PinHost} {ledger : Ledger} {token : String} (options : Registration) :
    Reaches platform s ledger →
    Ends (PinCan platform) s (registerRouteLocked platform options) s' (.ok token) →
    Reaches platform s' (ledger.register options token)
  | revoking {s s' : PinHost} {ledger : Ledger} (routeId : String) :
    Reaches platform s ledger →
    Passes (PinCan platform) s (revokeHttpsPinRuntimeAdapterRoute routeId) s' →
    Reaches platform s' ledger
  | revoked {s s' : PinHost} {ledger : Ledger} (routeId : String) :
    Reaches platform s ledger →
    Ends (PinCan platform) s (revokeHttpsPinRuntimeAdapterRoute routeId) s' (.ok true) →
    Reaches platform s' (ledger.revoke routeId)

section History

variable {platform : Platform} {dead : String → String → Prop} {s s' : PinHost}
  {ledger : Ledger} {routeId token generation : String}

lemma Derived.mono (h : Derived platform s routeId token generation) (hs : Grows s s') :
    Derived platform s' routeId token generation where
  control := by
    obtain ⟨controlToken, htoken, hderived⟩ := h.control
    exact ⟨controlToken, hs.token controlToken htoken, hderived⟩
  drawn := hs.generations h.drawn
  valid := h.valid

structure Accounts (platform : Platform) (dead : String → String → Prop) (s : PinHost)
    (ledger : Ledger) : Prop where
  sealed : Sealed dead s
  issued : ∀ id token, (id, token) ∈ ledger.issued →
    ∃ generation, Derived platform s id token generation
  revoked : ∀ id token, (id, token) ∈ ledger.revoked →
    ∃ generation, Derived platform s id token generation ∧ dead id generation
  put : s.PutBy ledger.current

lemma Accounts.within (h : Accounts platform dead s ledger) (hs : Within dead s s')
    {current : List Registration} (hput : s'.PutBy current) :
    Accounts platform dead s' { ledger with current } where
  sealed := hs.sealed
  put := hput
  issued := by
    intro id token hmem
    obtain ⟨generation, hderived⟩ := h.issued id token hmem
    exact ⟨generation, hderived.mono hs.grows⟩
  revoked := by
    intro id token hmem
    obtain ⟨generation, hderived, hdead⟩ := h.revoked id token hmem
    exact ⟨generation, hderived.mono hs.grows, hdead⟩

lemma Accounts.register {options : Registration}
    (h : Accounts platform dead s (ledger.attempt options))
    (hput : s.PutBy (options.replaces ledger.current))
    (hderived : Derived platform s options.routeId token generation) :
    Accounts platform dead s (ledger.register options token) where
  sealed := h.sealed
  put := hput
  issued := by
    intro id other hmem
    cases mem_cons.mp hmem with
    | inl hnew => obtain ⟨rfl, rfl⟩ := Prod.mk.inj hnew; exact ⟨generation, hderived⟩
    | inr hold => exact h.issued id other hold
  revoked := h.revoked

def Outdated (dead : String → String → Prop) (s : PinHost) (routeId : String) :
    String → String → Prop :=
  fun id generation => dead id generation ∨ id = routeId ∧ generation ∈ s.generations

lemma Sealed.outdated (h : Sealed dead s) (hgone : Gone s routeId) :
    Sealed (Outdated dead s routeId) s where
  live := by
    intro adapter hadapter
    have hserves := h.live adapter hadapter
    refine ⟨hserves.token, fun id route hroute => ?_⟩
    obtain ⟨hdrawn, hvalid, halive⟩ := hserves.fresh id route hroute
    refine ⟨hdrawn, hvalid, fun hdead => ?_⟩
    cases hdead with
    | inl hbefore => exact halive hbefore
    | inr hnow => rw [hnow.1, hgone.unserved adapter hadapter] at hroute; cases hroute
  starting := h.starting
  recorded := by
    intro id data hdata
    obtain ⟨hdrawn, halive⟩ := h.recorded id data hdata
    refine ⟨hdrawn, fun hdead => ?_⟩
    cases hdead with
    | inl hbefore => exact halive hbefore
    | inr hnow => exact hgone.unrecorded data (hnow.1 ▸ hdata)
  drawn := by
    intro id generation hdead
    cases hdead with
    | inl hbefore => exact h.drawn id generation hbefore
    | inr hnow => exact hnow.2

lemma Accounts.revoke (h : Accounts platform dead s ledger) (hgone : Gone s routeId) :
    Accounts platform (Outdated dead s routeId) s (ledger.revoke routeId) where
  sealed := h.sealed.outdated hgone
  put := h.put.unserved hgone.unserved
  issued := h.issued
  revoked := by
    intro id token hmem
    cases mem_append.mp hmem with
    | inl hnow =>
      obtain ⟨hissued, hid⟩ := mem_filter.mp hnow
      obtain ⟨generation, hderived⟩ := h.issued id token hissued
      exact ⟨generation, hderived, .inr ⟨by simpa using hid, hderived.drawn⟩⟩
    | inr hbefore =>
      obtain ⟨generation, hderived, hdead⟩ := h.revoked id token hbefore
      exact ⟨generation, hderived, .inl hdead⟩

lemma Accounts.start : Accounts platform (fun _ _ => False) .empty .empty where
  sealed := by
    refine ⟨fun _ h => ?_, fun _ h => ?_, fun _ _ h => ?_, fun _ _ h => h.elim⟩
    · cases h
    · cases h
    · cases h
  issued := fun _ _ h => by cases h
  revoked := fun _ _ h => by cases h
  put := ⟨fun _ h => (by cases h), fun _ h => (by cases h)⟩

/-- Every token that was issued is accounted for, whatever happens. -/
lemma Reaches.accounts (hplatform : Faithful platform) (h : Reaches platform s ledger) :
    ∃ dead, Accounts platform dead s ledger := by
  induction h with
  | start => exact ⟨_, .start⟩
  | disturbed _ hdisturbs ih =>
    obtain ⟨dead, haccounts⟩ := ih
    have hother := Relation.ReflTransGen.single hdisturbs
    exact ⟨dead, haccounts.within
      ⟨Interferes.sealed hother haccounts.sealed, hdisturbs.same.grows⟩
      (haccounts.put.settles hdisturbs.settles)⟩
  | registering options _ hpasses ih =>
    obtain ⟨dead, haccounts⟩ := ih
    have hwithin : Within dead _ _ :=
      (registerRouteLocked_issues hplatform ⟨haccounts.sealed, .refl⟩).passes hpasses
    have hput := (registerRouteLocked_puts options hplatform haccounts.put).passes hpasses
    exact ⟨dead, haccounts.within hwithin hput⟩
  | registered options _ hends ih =>
    obtain ⟨dead, haccounts⟩ := ih
    have hissues : PinDoes platform dead _
        (Split (fun s' token => ∃ generation,
          Derived platform s' options.routeId token generation) fun _ _ => True)
        (registerRouteLocked platform options) _ :=
      registerRouteLocked_issues hplatform ⟨haccounts.sealed, Grows.refl⟩
    obtain ⟨generation, hderived⟩ := hissues.ends hends
    have hputs := registerRouteLocked_puts options hplatform haccounts.put
    have hattempt := haccounts.within (hissues.passes hends.passes) (hputs.passes hends.passes)
    exact ⟨dead, hattempt.register (hputs.ends hends) hderived⟩
  | revoking routeId _ hpasses ih =>
    obtain ⟨dead, haccounts⟩ := ih
    have hwithin : Within dead _ _ :=
      (revokeHttpsPinRuntimeAdapterRoute_removes hplatform
        ⟨haccounts.sealed, .refl⟩).passes hpasses
    exact ⟨dead, haccounts.within hwithin (haccounts.put.revoking hplatform hpasses)⟩
  | revoked routeId _ hends ih =>
    obtain ⟨dead, haccounts⟩ := ih
    have hremoves : PinDoes platform dead _ (Split (fun s' _ => Gone s' routeId) fun _ _ => True)
        (revokeHttpsPinRuntimeAdapterRoute routeId) _ :=
      revokeHttpsPinRuntimeAdapterRoute_removes hplatform ⟨haccounts.sealed, Grows.refl⟩
    have hput := haccounts.put.revoking hplatform hends.passes
    exact ⟨_, (haccounts.within (hremoves.passes hends.passes) hput).revoke
      (hremoves.ends hends)⟩

lemma deriveRouteToken_inj {controlToken controlToken' routeId' generation' : String}
    (hplatform : Faithful platform) (hgeneration : isGeneration generation)
    (hgeneration' : isGeneration generation')
    (h : deriveRouteToken platform controlToken routeId generation =
      deriveRouteToken platform controlToken' routeId' generation') :
    routeId = routeId' ∧ generation = generation' := by
  have hlength : generation.toList.length = 32 := by
    simpa using (Bool.and_eq_true_iff.mp hgeneration).1
  have hlength' : generation'.toList.length = 32 := by
    simpa using (Bool.and_eq_true_iff.mp hgeneration').1
  obtain ⟨-, hdata⟩ := hplatform.hmac _ _ _ _ h
  have hchars := congrArg String.toList hdata
  simp only [String.toList_append] at hchars
  obtain ⟨hfront, hback⟩ := append_inj' hchars (hlength.trans hlength'.symm)
  obtain ⟨hid, -⟩ := append_inj' hfront rfl
  exact ⟨String.toList_injective (append_cancel_left hid), String.toList_injective hback⟩

lemma routeAuthMatches_unique {req : Request} {token' : String}
    {providerType : HttpsPinCredentialProviderType}
    (h : routeAuthMatches req token providerType)
    (h' : routeAuthMatches req token' providerType) : token = token' := by
  cases providerType with
  | openai =>
    unfold routeAuthMatches authMatches at h h'
    cases hheader : req.authorization with
    | none => simp [hheader] at h
    | some header =>
      simp only [hheader, Option.any_some, Bool.and_eq_true, decide_eq_true_eq] at h h'
      exact (String.append_right_inj _).mp (h.2.symm.trans h'.2)
  | anthropic =>
    unfold routeAuthMatches rawTokenMatches at h h'
    cases hheader : req.xApiKey with
    | none => simp [hheader] at h
    | some header =>
      simp only [hheader, Option.any_some, Bool.and_eq_true, decide_eq_true_eq] at h h'
      exact h.2.symm.trans h'.2

/-- The request has the token, in the header of the provider of the route of its path. -/
def Carries (platform : Platform) (adapter : Adapter) (req : Request) (token : String) : Prop :=
  ∃ pathname search routeId suffix route,
    platform.requestUrl req.url = some (pathname, search) ∧
    routeMatch pathname = some (routeId, suffix) ∧
    adapter.routes.lookup routeId = some route ∧
    routeAuthMatches req token route.providerType

lemma Accounts.forwards_unrevoked {adapter : Adapter} {req : Request} {target : HttpsPinTarget}
    (hplatform : Faithful platform) (h : Accounts platform dead s ledger)
    (hadapter : s.adapter = some adapter) (hforwards : Forwards platform adapter req target)
    (hrevoked : (routeId, token) ∈ ledger.revoked) : ¬Carries platform adapter req token := by
  intro hcarries
  obtain ⟨pathname, search, id, suffix, route, hurl, hmatch, hlookup, hcarried⟩ := hcarries
  obtain ⟨pathname', search', id', suffix', route', hurl', hmatch', hlookup', hauth, -⟩ :=
    hforwards.route
  -- both are about the route of the path
  obtain ⟨rfl, rfl⟩ := Prod.mk.inj (Option.some.inj (hurl.symm.trans hurl'))
  obtain ⟨rfl, rfl⟩ := Prod.mk.inj (Option.some.inj (hmatch.symm.trans hmatch'))
  cases hlookup.symm.trans hlookup'
  have htoken := routeAuthMatches_unique hcarried hauth
  obtain ⟨generation, hderived, hdead⟩ := h.revoked routeId token hrevoked
  obtain ⟨controlToken, -, hderives⟩ := hderived.control
  obtain ⟨-, hvalid, halive⟩ := (h.sealed.live adapter hadapter).fresh _ _ hlookup
  obtain ⟨hid, hgeneration⟩ := deriveRouteToken_inj hplatform hderived.valid hvalid
    (hderives.symm.trans htoken)
  rw [← hid, ← hgeneration] at halive; exact halive hdead

/-- The target is the one of a registration of the id in the path. -/
def SentFor (platform : Platform) (current : List Registration) (req : Request)
    (target : HttpsPinTarget) : Prop :=
  ∃ pathname search suffix, ∃ options ∈ current,
    platform.requestUrl req.url = some (pathname, search) ∧
    routeMatch pathname = some (options.routeId, suffix) ∧ target = options.target

lemma Accounts.forwards_registered {adapter : Adapter} {req : Request} {target : HttpsPinTarget}
    (h : Accounts platform dead s ledger) (hadapter : s.adapter = some adapter)
    (hforwards : Forwards platform adapter req target) :
    SentFor platform ledger.current req target := by
  obtain ⟨pathname, search, id, suffix, route, hurl, hmatch, hlookup, -, htarget⟩ :=
    hforwards.route
  obtain ⟨options, hmem, rfl, generation, rfl⟩ := h.put.live adapter hadapter id route hlookup
  exact ⟨pathname, search, suffix, options, hmem, hurl, hmatch, htarget⟩

/-- Whatever happened, the adapter sends a request on only to the route of its path, to the
endpoint, the address and with the credential that were registered for its id, and only from
an allowed source and with the token that belongs to the control token of the record and the
generation of the route; that token is none that a revocation has ended. Without the control
token, or not from the loopback address, nothing is changed. -/
theorem adapter_finalRevocation {adapter adapter' : Adapter} {req : Request}
    {response : Response} (hplatform : Faithful platform) (h : Reaches platform s ledger)
    (hadapter : s.adapter = some adapter)
    (hhandle : adapter.handle platform req = (adapter', response)) :
    (adapter' = adapter ∨ Controls adapter req) ∧
      ∀ target path, response = .forwarded target path →
        adapter' = adapter ∧ s.tokenFile = some adapter.controlToken ∧
        Forwards platform adapter req target ∧ SentFor platform ledger.current req target ∧
        ∀ routeId token, (routeId, token) ∈ ledger.revoked →
          ¬Carries platform adapter req token := by
  refine ⟨handle_changes hhandle, fun target path hforwarded => ?_⟩
  subst hforwarded
  obtain ⟨dead, haccounts⟩ := h.accounts hplatform
  obtain ⟨hsame, hforwards⟩ := handle_forwards hhandle
  obtain ⟨pathname, search, id, suffix, route, -, -, hlookup, -, -⟩ := hforwards.route
  have htoken := (haccounts.sealed.live adapter hadapter).token id route hlookup
  exact ⟨hsame, htoken, hforwards, haccounts.forwards_registered hadapter hforwards,
    fun routeId token hrevoked =>
      haccounts.forwards_unrevoked hplatform hadapter hforwards hrevoked⟩

end History

def modelsRoute : Registration where
  routeId := String.ofList (List.replicate 64 'a')
  endpointUrl := "https://models.example"
  pinnedAddresses := ["192.0.2.1"]
  providerType := .openai
  credentialValue := "sk-1"
  allowedSourceCidrs := ["172.18.0.0/16"]
  routeId_hex := by decide

def generationOf (digit : Char) : String := String.ofList (List.replicate 32 digit)

def modelsToken (digit : Char) : String :=
  deriveRouteToken plainPlatform "5d41402abc4b2a76" modelsRoute.routeId (generationOf digit)

def modelsAdapter (routes : List (String × RouteRuntime)) : Adapter where
  controlToken := "5d41402abc4b2a76"
  allowedSourceCidrs := modelsRoute.allowedSourceCidrs
  identity := plainPlatform.currentIdentity
  routes := routes
  orphanedRoutes := []

def modelsRuntime (digit : Char) : RouteRuntime :=
  ⟨modelsRoute.endpointUrl, modelsRoute.pinnedAddresses, .openai, "sk-1", generationOf digit⟩

def modelsHost (routes : List (String × RouteRuntime))
    (recorded : List (String × RoutePersistedMeta)) (generations : List String) : PinHost where
  tokenFile := some "5d41402abc4b2a76"
  stateFile := some ⟨some 4711, "1970-01-01T00:00:00.000Z",
    some modelsRoute.allowedSourceCidrs, recorded⟩
  pidFile := some 4711
  adapter := some (modelsAdapter routes)
  starting := [modelsAdapter []]
  generations := generations

def issuedHost : PinHost :=
  modelsHost [(modelsRoute.routeId, modelsRuntime '0')]
    [(modelsRoute.routeId, ⟨.openai, generationOf '0', "1970-01-01T00:00:00.000Z", none⟩)]
    [generationOf '0']

def revokedHost : PinHost := modelsHost [] [] [generationOf '0']

def reissuedHost : PinHost :=
  modelsHost [(modelsRoute.routeId, modelsRuntime '1')]
    [(modelsRoute.routeId, ⟨.openai, generationOf '1', "1970-01-01T00:00:00.000Z", none⟩)]
    [generationOf '1', generationOf '0']

lemma issuedHost_ends : Ends (PinCan plainPlatform) .empty
    (registerRouteLocked plainPlatform modelsRoute) issuedHost (.ok (modelsToken '0')) := by
  have hissued : (outcome plainPlatform true (registerRouteLocked plainPlatform modelsRoute)
      .empty).1 = issuedHost := by decide +kernel
  exact outcome_ends (by decide +kernel) hissued rfl

def repliesRoute : Registration where
  routeId := String.ofList (List.replicate 64 'b')
  endpointUrl := " https://replies.example/api "
  pinnedAddresses := ["198.51.100.7", "198.51.100.8"]
  providerType := .anthropic
  credentialValue := "sk-2"
  allowedSourceCidrs := modelsRoute.allowedSourceCidrs
  routeId_hex := by decide

def repliesRuntime : RouteRuntime :=
  ⟨"https://replies.example/api", repliesRoute.pinnedAddresses, .anthropic, "sk-2",
    generationOf '2'⟩

def sharedRoutes : List (String × RouteRuntime) :=
  [(modelsRoute.routeId, modelsRuntime '1'), (repliesRoute.routeId, repliesRuntime)]

/-- The second route beside the one that was registered again. -/
def sharedHost : PinHost :=
  modelsHost sharedRoutes
    [(modelsRoute.routeId, ⟨.openai, generationOf '1', "1970-01-01T00:00:00.000Z", none⟩),
      (repliesRoute.routeId, ⟨.anthropic, generationOf '2', "1970-01-01T00:00:00.000Z", none⟩)]
    [generationOf '2', generationOf '1', generationOf '0']

def repliesToken : String :=
  deriveRouteToken plainPlatform "5d41402abc4b2a76" repliesRoute.routeId (generationOf '2')

def sharedLedger : Ledger :=
  (((Ledger.empty.register modelsRoute (modelsToken '0')).revoke modelsRoute.routeId).register
    modelsRoute (modelsToken '1')).register repliesRoute repliesToken

lemma sharedHost_reaches : Reaches plainPlatform sharedHost sharedLedger := by
  have hrevoked : (outcome plainPlatform true
      (revokeHttpsPinRuntimeAdapterRoute modelsRoute.routeId) issuedHost).1 = revokedHost := by
    decide +kernel
  have hreissued : (outcome plainPlatform true (registerRouteLocked plainPlatform modelsRoute)
      revokedHost).1 = reissuedHost := by decide +kernel
  have hshared : (outcome plainPlatform true (registerRouteLocked plainPlatform repliesRoute)
      reissuedHost).1 = sharedHost := by decide +kernel
  exact .registered repliesRoute
    (.registered modelsRoute
      (.revoked modelsRoute.routeId
        (.registered modelsRoute .start issuedHost_ends)
        (outcome_ends (by decide +kernel) hrevoked rfl))
      (outcome_ends (by decide +kernel) hreissued rfl))
    (outcome_ends (by decide +kernel) hshared rfl)

def modelsRequest (token : String) : Request where
  method := "POST"
  url := "/route/" ++ modelsRoute.routeId ++ "/v1/responses"
  remoteAddress := some "127.0.0.1"
  authorization := some ("Bearer " ++ token)
  xApiKey := none
  body := .invalid

/-- The new token is served, at the endpoint of its own route though another was registered
since; the old one is not the one of the request. -/
theorem adapter_finalRevocation_reissued :
    (modelsAdapter sharedRoutes).handle plainPlatform (modelsRequest (modelsToken '1')) =
        (modelsAdapter sharedRoutes, .forwarded modelsRoute.target "/v1/responses") ∧
      SentFor plainPlatform [repliesRoute, modelsRoute] (modelsRequest (modelsToken '1'))
        modelsRoute.target ∧
      ¬Carries plainPlatform (modelsAdapter sharedRoutes) (modelsRequest (modelsToken '1'))
        (modelsToken '0') := by
  have hhandle : (modelsAdapter sharedRoutes).handle plainPlatform
      (modelsRequest (modelsToken '1')) =
      (modelsAdapter sharedRoutes, .forwarded modelsRoute.target "/v1/responses") := by
    decide +kernel
  have hserved := (adapter_finalRevocation plainPlatform_faithful sharedHost_reaches rfl
    hhandle).2 _ _ rfl
  exact ⟨hhandle, hserved.2.2.2.1,
    hserved.2.2.2.2 modelsRoute.routeId (modelsToken '0') mem_cons_self⟩

end NemoClaw.HttpsPin
