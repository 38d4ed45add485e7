import NemoClaw.Inference.HttpsPinSealed

/- Whence the routes of the HTTPS pin adapter come.

A route of a process was put by a registration of its id: the one that completed last, or one
that was tried since and may have failed after its request. What is sent on for the route goes
to the endpoint of that registration, with its first address and its credential; no
registration changes what another id goes to.

What is provided:
  1. `Registration.runtime`, `Registration.target` — what a registration puts, and where the
     requests for it go.
  2. `PinHost.PutBy` — the invariant; what each call preserves.
  3. `registerRouteLocked_puts` — what a registration that completes leaves.
-/
namespace NemoClaw.HttpsPin

open Js CallTree List

section Put

variable {platform : Platform} {adapter adapter' : Adapter} {routeId : String}

/-- What the adapter makes of the body of the registration. -/
def Registration.runtime (options : Registration) (generation : String) : RouteRuntime where
  targetBaseUrl := jsTrim options.endpointUrl
  pinnedAddresses := options.pinnedAddresses.filter (· ≠ "")
  providerType := options.providerType
  credentialValue := options.credentialValue
  generation := generation

def Registration.target (options : Registration) : HttpsPinTarget where
  targetUrl := jsTrim options.endpointUrl
  pinnedAddress := (options.pinnedAddresses.filter (· ≠ "")).head?
  credential := resolveHttpsPinCredentialHeader options.providerType options.credentialValue

lemma filterMap_strings (addresses : List String) :
    (addresses.map Json.str).filterMap (fun entry =>
      match entry with
      | .str s => if s = "" then none else some s
      | _ => none) = addresses.filter (· ≠ "") := by
  induction addresses with
  | nil => rfl
  | cons address rest ih =>
    by_cases h : address = ""
    · simp [h, ih]
    · simp [h, ih]

lemma parsePinnedAddresses_body (options : Registration) (generation : String)
    {fields : List (String × Json)} (h : options.body generation = .json fields) :
    parsePinnedAddresses fields = options.pinnedAddresses.filter (· ≠ "") := by
  cases h; exact filterMap_strings options.pinnedAddresses

lemma parseProviderType_body (options : Registration) (generation : String)
    {fields : List (String × Json)} (h : options.body generation = .json fields) :
    parseProviderType fields = some options.providerType := by
  cases h
  unfold parseProviderType
  cases options.providerType <;> rfl

/-- The adapter takes from the body what the registration has. -/
lemma parseRoutePutBody_body {options : Registration} {generation : String}
    {fields : List (String × Json)} {route : RouteRuntime}
    (hfields : options.body generation = .json fields)
    (h : parseRoutePutBody platform fields = .ok route) : route = options.runtime generation := by
  unfold parseRoutePutBody at h
  simp only [parseProviderType_body options generation hfields,
    parsePinnedAddresses_body options generation hfields] at h
  split at h
  · cases h
  split at h
  · cases h
  cases hfields; cases h; rfl

/-- A route that was accepted over the control plane is there. -/
lemma handleControl_put {req : Request} (hmethod : req.method = "PUT")
    (h : adapter.handleControl platform routeId req = (adapter', .ok)) :
    ∃ fields route, req.body = .json fields ∧ parseRoutePutBody platform fields = .ok route ∧
      adapter' = adapter.setRoute routeId route := by
  have hdelete : req.method ≠ "DELETE" := by
    rw [hmethod]; decide
  unfold Adapter.handleControl notFound unauthorized at h
  rw [if_neg hdelete, if_neg (not_not.mpr hmethod)] at h
  split at h
  · cases h
  split at h
  · cases h
  unfold Adapter.putRoute readControlRequestJson at h
  cases hbody : req.body with
  | tooLarge => rw [hbody] at h; cases h
  | invalid => rw [hbody] at h; cases h
  | json fields =>
    simp only [hbody] at h
    cases hparse : parseRoutePutBody platform fields with
    | error e =>
      simp only [hparse, Prod.mk.injEq] at h
      unfold parseRoutePutBody invalidRoute at hparse
      dsimp only at hparse
      obtain ⟨-, rfl⟩ := h
      split at hparse
      · cases hparse
      split at hparse
      · cases hparse
      split at hparse <;> cases hparse
    | ok route =>
      simp only [hparse] at h
      exact ⟨fields, route, rfl, hparse, (Prod.mk.inj h).1.symm⟩

end Put

section PutBy

variable {platform : Platform} {current current' : List Registration} {s s' : PinHost}
  {adapter adapter' : Adapter} {options : Registration} {routeId : String}

/-- Each route was put by one of the registrations. -/
def Adapter.PutBy (current : List Registration) (adapter : Adapter) : Prop :=
  ∀ id route, adapter.routes.lookup id = some route →
    ∃ options ∈ current, options.routeId = id ∧ ∃ generation, route = options.runtime generation

lemma Adapter.PutBy.of_empty (h : adapter.routes = []) : adapter.PutBy current := by
  intro id route hroute
  rw [h] at hroute; cases hroute

lemma Adapter.PutBy.continues (h : adapter.PutBy current) (hcontinues : adapter.Continues adapter') :
    adapter'.PutBy current :=
  fun id route hroute => h id route (hcontinues.routes id route hroute)

lemma Adapter.PutBy.mono (h : adapter.PutBy current) (hsub : current ⊆ current') :
    adapter.PutBy current' := by
  intro id route hroute
  obtain ⟨options, hmem, hput⟩ := h id route hroute; exact ⟨options, hsub hmem, hput⟩

/-- The other registrations of the id do not matter any more. -/
lemma Adapter.PutBy.setRoute {generation : String} (h : adapter.PutBy current)
    (hkept : ∀ other ∈ current, other.routeId ≠ options.routeId → other ∈ current')
    (hmem : options ∈ current') :
    (adapter.setRoute options.routeId (options.runtime generation)).PutBy current' := by
  intro id route hroute
  have hthere : (setOwn adapter.routes options.routeId (options.runtime generation)).lookup id =
    some route := hroute
  rw [lookup_setOwn] at hthere
  split at hthere
  · next heq => cases hthere; exact ⟨options, hmem, heq.symm, generation, rfl⟩
  · next hne =>
    obtain ⟨other, hother, hid, hput⟩ := h id route hthere
    exact ⟨other, hkept other hother (hid ▸ hne), hid, hput⟩

structure PinHost.PutBy (current : List Registration) (s : PinHost) : Prop where
  live : ∀ adapter, s.adapter = some adapter → adapter.PutBy current
  starting : ∀ adapter ∈ s.starting, adapter.routes = []

namespace PinHost.PutBy

lemma mono (h : s.PutBy current) (hsub : current ⊆ current') : s.PutBy current' :=
  ⟨fun adapter hadapter => (h.live adapter hadapter).mono hsub, h.starting⟩

lemma settles (h : s.PutBy current) (hs : Settles s s') : s'.PutBy current where
  live := by
    intro adapter hadapter
    cases hs.live adapter hadapter with
    | inl hbefore =>
      obtain ⟨before, hbefore, hcontinues⟩ := hbefore
      exact (h.live before hbefore).continues hcontinues
    | inr hnew =>
      cases hnew with
      | inl hstarted =>
        obtain ⟨before, hbefore, hcontinues⟩ := hstarted
        exact .of_empty (hcontinues.empty (h.starting before hbefore))
      | inr hempty => exact .of_empty hempty
  starting := by
    intro adapter hadapter
    cases hs.starting adapter hadapter with
    | inl hbefore => exact h.starting adapter hbefore
    | inr hempty => exact hempty

lemma handles {req : Request} {response : Response} (h : s.PutBy current)
    (hafter : ∀ adapter adapter' : Adapter, adapter.PutBy current →
      adapter.handle platform req = (adapter', response) → adapter'.PutBy current')
    (hhandles : Handles platform s req s' response) : s'.PutBy current' := by
  obtain ⟨adapter, adapter', hadapter, hhandle, rfl⟩ := hhandles
  refine ⟨fun other hother => ?_, h.starting⟩
  cases hother; exact hafter adapter adapter' (h.live adapter hadapter) hhandle

lemma unserved (h : s.PutBy current) (hgone : Unserved s routeId) :
    s.PutBy (current.filter (·.routeId ≠ routeId)) where
  live := by
    intro adapter hadapter id route hroute
    obtain ⟨options, hmem, hid, hput⟩ := h.live adapter hadapter id route hroute
    refine ⟨options, mem_filter.mpr ⟨hmem, decide_eq_true fun heq => ?_⟩, hid, hput⟩
    have hnone := hgone adapter hadapter
    rw [← heq, hid, hroute] at hnone; cases hnone
  starting := h.starting

end PinHost.PutBy

/-- The requests of a program: those that put are of the registrations. -/
def Call.PutsFor (current : List Registration) : Call → Prop
  | request req => req.method ≠ "PUT" ∨ ∃ options ∈ current, ∃ controlToken generation,
    req = controlRequest "PUT" controlToken options.routeId (options.body generation)
  | _ => True

lemma Call.Unsent.putsFor {q : Call} (h : q.Unsent) : q.PutsFor current := by
  cases q
  case request => exact h.elim
  all_goals exact trivial

lemma handle_putBy {req : Request} {response : Response} (hplatform : Faithful platform)
    (hreq : (Call.request req).PutsFor current) (h : adapter.PutBy current)
    (hhandle : adapter.handle platform req = (adapter', response)) : adapter'.PutBy current := by
  cases hreq with
  | inl hunput =>
    cases handle_unput hunput hhandle with
    | inl hsame => exact hsame ▸ h
    | inr hdelete =>
      obtain ⟨id, rfl⟩ := hdelete; exact h.continues (adapter.continues_deleteRoute id)
  | inr hput =>
  obtain ⟨options, hmem, controlToken, generation, rfl⟩ := hput
  rw [handle_controlRequest (hplatform.controlUrl _ options.routeId_hex) options.routeId_hex
    (.inl rfl)] at hhandle
  cases handleControl_changes hhandle with
  | inl hsame => exact hsame ▸ h
  | inr hchanged =>
  obtain ⟨-, -, hchange⟩ := hchanged
  cases hchange with
  | inl hdelete => exact hdelete ▸ h.continues (adapter.continues_deleteRoute _)
  | inr hset =>
    obtain ⟨fields, route, hfields, hparse, rfl⟩ := hset
    rw [parseRoutePutBody_body hfields hparse]; exact h.setRoute (fun _ h _ => h) hmem

lemma PinCan.putBy {q : Call} {x : q.Answer} (hplatform : Faithful platform)
    (hq : q.PutsFor current) (hcan : PinCan platform s q s' x) (h : s.PutBy current) :
    s'.PutBy current := by
  by_cases hunsent : q.Unsent
  · exact h.settles (hcan.settles hunsent)
  cases q
  case request req =>
    obtain ⟨s1, hother, hdoes⟩ := hcan
    have hbefore : s1.PutBy current := h.settles hother.settles
    have hhandled : ∀ response, Handles platform s1 req s' response → s'.PutBy current :=
      fun response hhandles => hbefore.handles
        (fun _ _ hput hhandle => handle_putBy hplatform hq hput hhandle) hhandles
    cases x with
    | ok response => exact hhandled response hdoes
    | error e =>
      cases hdoes with
      | inl heq => exact heq ▸ hbefore
      | inr hhandles => obtain ⟨response, hhandles⟩ := hhandles; exact hhandled response hhandles
  all_goals exact absurd trivial hunsent

variable {α : Type} {t : Program α}

/-- What the calls of a program keep at every point of its runs. -/
lemma putBy_calls (hplatform : Faithful platform) (ht : t.Calls (Call.PutsFor current))
    (hsub : current ⊆ current') (h : s.PutBy current) :
    Always (PinCan platform) (PinHost.PutBy current') (fun s' _ => s'.PutBy current) t s :=
  .of_calls ht (fun _ h => h.mono hsub) (fun _ _ _ _ hq hcan h => hcan.putBy hplatform hq h) h

lemma Unsent.putsFor (ht : t.Calls Call.Unsent) : t.Calls (Call.PutsFor current) :=
  ht.mono fun _ hq => hq.putsFor

lemma persistRouteState_unsent {data : RoutePersistedMeta} {cidrs : Option (List String)} :
    (persistRouteState routeId data cidrs).Calls Call.Unsent :=
  .bind (.ask trivial) fun _ => .bind persistedPid_unsent fun _ =>
    .bind (.ask trivial) fun _ => .bind (.ask trivial) fun _ => .done

lemma respawnAdapter_unsent {cidrs : List String} {priorToken : Option String} :
    (respawnAdapter routeId cidrs priorToken).Calls Call.Unsent := by
  have hkill : killStaleAdapter.Calls Call.Unsent := .bind (.ask trivial) fun _ => .done
  have htoken : (tokenOrRandom priorToken).Calls Call.Unsent := by
    cases priorToken with
    | some token => exact .done
    | none => exact .ask trivial
  have hboot : ∀ pid token routes, (bootAdapter pid token cidrs routes).Calls Call.Unsent := by
    intro pid token routes
    refine .bind (.bind (.ask trivial) fun _ => .done) fun _ => .bind (.ask trivial) fun _ => ?_
    refine .ite (fun _ => .done) fun _ => ?_
    exact .bind (.bind (.ask trivial) fun _ => .done) fun _ => .bind (.ask trivial) fun _ =>
      .bind (.ask trivial) fun _ => .done
  have hbooted : ∀ token result, (booted token result).Calls Call.Unsent := by
    intro token result
    cases result with
    | ok _ => exact .done
    | error e => exact .bind hkill fun _ => .bind (.ask trivial) fun _ => .done
  exact .bind hkill fun _ => .bind htoken fun token => .bind (.ask trivial) fun _ =>
    .bind (.ask trivial) fun _ => .bind (.ask trivial) fun pid =>
      .bind (hboot pid token _).attempt fun result => hbooted token result

lemma ensureAdapterProcessLocked_unsent {cidrs : List String} :
    (ensureAdapterProcessLocked routeId cidrs).Calls Call.Unsent := by
  have hreusable : ∀ prior, (findReusableAdapterControlToken prior cidrs).Calls Call.Unsent := by
    intro prior
    cases prior with
    | none => exact .done
    | some token => exact .bind (.ask trivial) fun _ => .done
  refine .bind (.ask trivial) fun prior => .bind (hreusable prior) fun reusable => ?_
  cases reusable with
  | some token => exact .done
  | none => exact respawnAdapter_unsent

/-- A registration is tried beside those of its id that were, and takes their place when it
completes. -/
def Registration.replaces (options : Registration) (current : List Registration) :
    List Registration :=
  options :: current.filter (·.routeId ≠ options.routeId)

lemma Registration.replaces_subset (options : Registration) :
    options.replaces current ⊆ options :: current :=
  cons_subset_cons _ (filter_subset_self _)

/-- A success of the request means that the route is the one of the registration. -/
lemma putRoute_puts {controlToken generation : String} (hplatform : Faithful platform)
    (h : s.PutBy (options :: current)) :
    Always (PinCan platform) (PinHost.PutBy (options :: current))
      (Split (fun s' _ => s'.PutBy (options.replaces current)) fun _ _ => True)
      (putRoute controlToken generation options) s := by
  have hputs : (Call.request (controlRequest "PUT" controlToken options.routeId
      (options.body generation))).PutsFor (options :: current) :=
    .inr ⟨options, mem_cons_self, controlToken, generation, rfl⟩
  refine ⟨h, fun s' (answer : Except String Response) hcan => ?_⟩
  have hkept : s'.PutBy (options :: current) := hcan.putBy hplatform hputs h
  cases answer with
  | error e => exact ⟨hkept, trivial⟩
  | ok response =>
  refine Always.ite (fun hok => ⟨hkept, ?_⟩) fun _ => ⟨hkept, trivial⟩
  subst hok
  obtain ⟨s1, hother, hhandles⟩ := hcan
  refine (h.settles hother.settles).handles (fun adapter adapter' hput hhandle => ?_) hhandles
  rw [handle_controlRequest (hplatform.controlUrl _ options.routeId_hex) options.routeId_hex
    (.inl rfl)] at hhandle
  obtain ⟨fields, route, hfields, hparse, rfl⟩ := handleControl_put rfl hhandle
  rw [parseRoutePutBody_body hfields hparse]
  refine hput.setRoute (fun other hother hne => ?_) mem_cons_self
  cases mem_cons.mp hother with
  | inl heq => exact absurd (congrArg Registration.routeId heq) hne
  | inr hold => exact mem_cons_of_mem _ (mem_filter.mpr ⟨hold, decide_eq_true hne⟩)

theorem registerRouteLocked_puts (options : Registration) (hplatform : Faithful platform)
    (h : s.PutBy current) :
    Always (PinCan platform) (PinHost.PutBy (options :: current))
      (Split (fun s' _ => s'.PutBy (options.replaces current)) fun _ _ => True)
      (registerRouteLocked platform options) s := by
  have hstart : s.PutBy (options :: current) := h.mono (subset_cons_self _ _)
  have hgeneration : ∀ prior, (generationOrRandom prior).Calls Call.Unsent := by
    intro prior
    cases prior with
    | some data => exact .done
    | none => exact .ask trivial
  have hread : readStateFile.Calls (Call.PutsFor (options :: current)) := .ask trivial
  have hnow : now.Calls (Call.PutsFor (options.replaces current)) := .ask trivial
  -- nothing is sent before the route is put, and nothing after it
  refine (putBy_calls hplatform hread (fun _ h => h) hstart).bind
    (fun s1 prior _ h1 => ?_) fun _ _ _ _ => trivial
  refine (putBy_calls hplatform (Unsent.putsFor (hgeneration _)) (fun _ h => h) h1).bind
    (fun s2 generation _ h2 => ?_) fun _ _ _ _ => trivial
  refine (putBy_calls hplatform (Unsent.putsFor ensureAdapterProcessLocked_unsent)
    (fun _ h => h) h2).bind (fun s3 controlToken _ h3 => ?_) fun _ _ _ _ => trivial
  refine (putRoute_puts hplatform h3).bind (fun s4 _ _ h4 => ?_) fun _ _ _ _ => trivial
  have hlast : ∀ registeredAt, (persistRouteState options.routeId
      ⟨options.providerType, generation, registeredAt, none⟩
      (some options.allowedSourceCidrs)).Calls (Call.PutsFor (options.replaces current)) :=
    fun _ => Unsent.putsFor persistRouteState_unsent
  refine (putBy_calls hplatform hnow options.replaces_subset h4).bind
    (fun s5 registeredAt _ h5 => ?_) fun _ _ _ _ => trivial
  refine (putBy_calls hplatform (hlast registeredAt) options.replaces_subset h5).bind
    (fun s6 _ _ h6 => ⟨h6.mono options.replaces_subset, h6⟩) fun _ _ _ _ => trivial

/-- A revocation puts nothing. -/
lemma revokeHttpsPinRuntimeAdapterRoute_unput :
    (revokeHttpsPinRuntimeAdapterRoute routeId).Calls (Call.PutsFor current) := by
  have hlive : ∀ token cidrs, (authenticateLiveAdapter token cidrs).Calls
      (Call.PutsFor current) := by
    intro token cidrs
    unfold authenticateLiveAdapter
    split
    · exact .ask trivial
    · exact .done
  have hrefuse : ∀ token pid, (refuseIfPresent token pid).Calls (Call.PutsFor current) :=
    fun _ _ => .ite (fun _ => .done) fun _ => .bind (.ask trivial) fun _ =>
      .ite (fun _ => .done) fun _ => .done
  have hdelete : ∀ token, (deleteRoute token routeId).Calls (Call.PutsFor current) := by
    intro token
    have hunput : (Call.request (controlRequest "DELETE" token routeId .invalid)).PutsFor
        current := .inl (by simp [controlRequest])
    exact .bind (.ask hunput) fun _ => .bind .done fun _ => .ite (fun _ => .done) fun _ => .done
  have hdeletes : ∀ live token pid, (deleteLive live token pid routeId).Calls
      (Call.PutsFor current) := by
    intro live token pid
    unfold deleteLive
    split
    · exact hdelete _
    · exact hrefuse token pid
  refine .ite (fun _ => .done) fun _ => ?_
  exact .bind (.ask trivial) fun _ => .bind (.ask trivial) fun _ => .bind (.ask trivial) fun _ =>
    .bind (hlive _ _) fun _ => .bind (hdeletes _ _ _) fun _ =>
      .bind (Unsent.putsFor removeRouteState_unsent) fun _ => .done

lemma PinHost.PutBy.revoking (hplatform : Faithful platform) (h : s.PutBy current)
    (hpasses : Passes (PinCan platform) s (revokeHttpsPinRuntimeAdapterRoute routeId) s') :
    s'.PutBy current :=
  (putBy_calls hplatform revokeHttpsPinRuntimeAdapterRoute_unput (fun _ h => h) h).passes hpasses

end PutBy

end NemoClaw.HttpsPin
