import NemoClaw.Inference.HttpsPinHost

/- What the commands of the HTTPS pin adapter keep.

Some generations are dead for a route: it was revoked after they were drawn. No route of a
process and no entry of the record has a generation that is dead for it, and no such
generation is drawn again; so no registration can use one.

What is provided:
  1. `Sealed` — the invariant; what each call preserves.
  2. `registerRouteLocked_issues` — whence the token of a registration comes.
  3. `revokeRouteLocked_removes` — what a revocation that completes leaves.
-/
namespace NemoClaw.HttpsPin

open Js CallTree List

section Sealed

variable {platform : Platform} {dead : String → String → Prop} {s s' s'' : PinHost}

/-- Entries whose generations were drawn and are not dead. -/
def Fresh (dead : String → String → Prop) (s : PinHost)
    (routes : List (String × RoutePersistedMeta)) : Prop :=
  ∀ id data, (id, data) ∈ routes → data.generation ∈ s.generations ∧ ¬dead id data.generation

/-- A process with its routes: they were put with the control token of the record. -/
structure Serves (dead : String → String → Prop) (s : PinHost) (adapter : Adapter) : Prop where
  token : ∀ id route, adapter.routes.lookup id = some route →
    s.tokenFile = some adapter.controlToken
  fresh : ∀ id route, adapter.routes.lookup id = some route →
    route.generation ∈ s.generations ∧ isGeneration route.generation ∧
      ¬dead id route.generation

structure Sealed (dead : String → String → Prop) (s : PinHost) : Prop where
  live : ∀ adapter, s.adapter = some adapter → Serves dead s adapter
  starting : ∀ adapter ∈ s.starting, adapter.routes = []
  recorded : Fresh dead s (extractPersistedRoutes s.stateFile)
  drawn : ∀ id generation, dead id generation → generation ∈ s.generations

variable {adapter : Adapter} {controlToken : String} {cidrs : List String}

lemma Serves.of_empty (h : adapter.routes = []) : Serves dead s adapter where
  token := fun id route hroute => by
    rw [h] at hroute
    cases hroute
  fresh := fun id route hroute => by
    rw [h] at hroute
    cases hroute

lemma Serves.same (h : Serves dead s adapter) (hs : Same s s') :
    Serves dead s' adapter where
  token := fun id route hroute => hs.tokenFile.trans (h.token id route hroute)
  fresh := fun id route hroute =>
    ⟨hs.generations (h.fresh id route hroute).1, (h.fresh id route hroute).2⟩

lemma Fresh.mono {routes : List (String × RoutePersistedMeta)} (h : Fresh dead s routes)
    (hs : s.generations ⊆ s'.generations) : Fresh dead s' routes :=
  fun id data hdata => ⟨hs (h id data hdata).1, (h id data hdata).2⟩

lemma Serves.continues {adapter' : Adapter} (h : Serves dead s adapter)
    (hcontinues : adapter.Continues adapter') : Serves dead s adapter' where
  token := fun id route hroute => by
    rw [hcontinues.controlToken]
    exact h.token id route (hcontinues.routes id route hroute)
  fresh := fun id route hroute => h.fresh id route (hcontinues.routes id route hroute)

lemma Sealed.of_same (h : Sealed dead s) (hs : Same s s') (hsettles : Settles s s') :
    Sealed dead s' where
  live := by
    intro adapter hadapter
    cases hsettles.live adapter hadapter with
    | inl hbefore =>
      obtain ⟨before, hbefore, hcontinues⟩ := hbefore
      exact ((h.live before hbefore).continues hcontinues).same hs
    | inr hnew =>
      cases hnew with
      | inl hstarted =>
        obtain ⟨before, hbefore, hcontinues⟩ := hstarted
        exact .of_empty (hcontinues.empty (h.starting before hbefore))
      | inr hempty => exact .of_empty hempty
  starting := by
    intro adapter hadapter
    cases hsettles.starting adapter hadapter with
    | inl hbefore => exact h.starting adapter hbefore
    | inr hempty => exact hempty
  recorded := by
    rw [hs.stateFile]; exact h.recorded.mono hs.generations
  drawn := fun id generation hdead => hs.generations (h.drawn id generation hdead)

lemma Interferes.sealed (hs : Interferes platform s s') (h : Sealed dead s) :
    Sealed dead s' := h.of_same hs.same hs.settles

def Call.Silent : Call → Prop
  | writeTokenFile _ | writeStateFile _ | removeStateFile | request _ => False
  | _ => True

lemma Call.Silent.sparing {q : Call} (h : q.Silent) : q.Sparing := by
  cases q
  all_goals first
    | exact h.elim
    | exact trivial

lemma Call.Silent.unsent {q : Call} (h : q.Silent) : q.Unsent := by
  cases q
  all_goals first
    | exact h.elim
    | exact trivial

lemma PinCan.sealed {q : Call} {x : q.Answer} (hq : q.Silent) (hcan : PinCan platform s q s' x)
    (h : Sealed dead s) : Sealed dead s' :=
  h.of_same (hcan.same hq.sparing) (hcan.settles hq.unsent)

/-- The control token stays once it is there, and so do the generations. -/
structure Grows (s s' : PinHost) : Prop where
  token : ∀ token, s.tokenFile = some token → s'.tokenFile = some token
  generations : s.generations ⊆ s'.generations

lemma Grows.refl : Grows s s := ⟨fun _ h => h, fun _ h => h⟩

lemma Grows.trans (h : Grows s s') (h' : Grows s' s'') : Grows s s'' :=
  ⟨fun token ht => h'.token token (h.token token ht),
    fun _ hg => h'.generations (h.generations hg)⟩

lemma Same.grows (h : Same s s') : Grows s s' :=
  ⟨fun _ ht => h.tokenFile.trans ht, h.generations⟩

/-- Sealed at every point, with what was there at the beginning. -/
structure Within (dead : String → String → Prop) (s0 s : PinHost) : Prop where
  sealed : Sealed dead s
  grows : Grows s0 s

abbrev PinDoes {α : Type} (platform : Platform) (dead : String → String → Prop) (s0 : PinHost)
    (post : PinHost → Except String α → Prop) (t : Program α) (s : PinHost) : Prop :=
  Always (PinCan platform) (Within dead s0) post t s

variable {α : Type} {t : Program α} {s0 : PinHost} {routeId generation : String}

/-- What a program leaves that begins here, it leaves with what was there. -/
lemma since {post : PinHost → Except String α → Prop} (hinv : Within dead s0 s)
    (h : PinDoes platform dead s post t s) :
    PinDoes platform dead s0 (fun s' r => Grows s s' ∧ post s' r) t s :=
  (h.relax fun _ hs' => ⟨hs'.sealed, hinv.grows.trans hs'.grows⟩).mono
    fun _ _ _ hs' => ⟨hs'.1.grows, hs'.2⟩

lemma silent (ht : t.Calls Call.Silent) (hinv : Within dead s0 s) :
    PinDoes platform dead s0 (fun s' _ => Same s s') t s := by
  refine (Always.of_calls (P := fun s' => Within dead s0 s' ∧ Same s s') ht (fun _ h => h.1)
    (fun s1 q s2 x hq hcan h => ?_) ⟨hinv, .refl⟩).mono fun _ _ _ h => h.2
  have hsame : Same s1 s2 := hcan.same hq.sparing
  exact ⟨⟨hcan.sealed hq h.1.sealed, h.1.grows.trans hsame.grows⟩, h.2.trans hsame⟩

section

variable (hinv : Within dead s0 s)
include hinv

lemma readTokenFile_reads :
    PinDoes platform dead s0
      (Split (fun s' token => Same s s' ∧ token = s'.tokenFile) fun _ _ => False)
      readTokenFile s := by
  refine Always.ask hinv fun s' (token : Option String) hcan => ?_
  have hsame : Same s s' := hcan.same (q := Call.readTokenFile) trivial
  have hsealed : Sealed dead s' := hcan.sealed (q := Call.readTokenFile) trivial hinv.sealed
  obtain ⟨s1, -, rfl, rfl⟩ := hcan
  exact ⟨⟨hsealed, hinv.grows.trans hsame.grows⟩, hsame, rfl⟩

lemma readStateFile_reads :
    PinDoes platform dead s0
      (Split (fun s' state => Same s s' ∧ state = s'.stateFile) fun _ _ => False)
      readStateFile s := by
  refine Always.ask hinv fun s' (state : Option AdapterState) hcan => ?_
  have hsame : Same s s' := hcan.same (q := Call.readStateFile) trivial
  have hsealed : Sealed dead s' := hcan.sealed (q := Call.readStateFile) trivial hinv.sealed
  obtain ⟨s1, -, rfl, rfl⟩ := hcan
  exact ⟨⟨hsealed, hinv.grows.trans hsame.grows⟩, hsame, rfl⟩

lemma writeTokenFile_writes {token : String}
    (hfirst : s.tokenFile = none ∨ s.tokenFile = some token) :
    PinDoes platform dead s0
      (Split (fun s' _ => Grows s s' ∧ s'.tokenFile = some token) fun s' _ => Grows s s')
      (writeTokenFile token) s := by
  refine ⟨hinv, fun s' (answer : Except String Unit) hcan => ?_⟩
  obtain ⟨s1, hother, hdoes⟩ := hcan
  have hsealed := hother.sealed hinv.sealed
  have hsame := hother.same
  cases answer with
  | error e =>
    have heq : s' = s1 := hdoes
    subst heq; exact ⟨⟨hsealed, hinv.grows.trans hsame.grows⟩, hsame.grows⟩
  | ok _ =>
    have heq : s' = { s1 with tokenFile := some token } := hdoes
    subst heq
    have hkept : ∀ other, s1.tokenFile = some other → some token = some other := by
      intro other hother
      rw [hsame.tokenFile] at hother
      cases hfirst with
      | inl hnone => exact absurd (hnone.symm.trans hother) (by simp)
      | inr hsome => exact hsome.symm.trans hother
    have hgrows : Grows s1 { s1 with tokenFile := some token } := ⟨hkept, fun _ hg => hg⟩
    refine ⟨⟨⟨fun adapter hadapter => ?_, hsealed.starting, hsealed.recorded, hsealed.drawn⟩,
      hinv.grows.trans (hsame.grows.trans hgrows)⟩, hsame.grows.trans hgrows, rfl⟩
    have hserves := hsealed.live adapter hadapter
    exact ⟨fun id route hroute => hkept _ (hserves.token id route hroute), hserves.fresh⟩

lemma writeStateFile_writes {state : AdapterState}
    (hfresh : Fresh dead s (extractPersistedRoutes (some state))) :
    PinDoes platform dead s0
      (Split (fun s' _ => Grows s s' ∧ s'.stateFile = some state ∧
        s'.tokenFile = s.tokenFile) fun s' _ => Same s s')
      (writeStateFile state) s := by
  refine ⟨hinv, fun s' (answer : Except String Unit) hcan => ?_⟩
  obtain ⟨s1, hother, hdoes⟩ := hcan
  have hsealed := hother.sealed hinv.sealed
  have hsame := hother.same
  cases answer with
  | error e =>
    have heq : s' = s1 := hdoes
    subst heq; exact ⟨⟨hsealed, hinv.grows.trans hsame.grows⟩, hsame⟩
  | ok _ =>
    have heq : s' = { s1 with stateFile := some state } := hdoes
    subst heq
    have hgrows : Grows s1 { s1 with stateFile := some state } := ⟨fun _ ht => ht, fun _ hg => hg⟩
    refine ⟨⟨⟨fun adapter hadapter => ?_, hsealed.starting, hfresh.mono hsame.generations, hsealed.drawn⟩,
      hinv.grows.trans (hsame.grows.trans hgrows)⟩, hsame.grows.trans hgrows, rfl,
      hsame.tokenFile⟩
    have hserves := hsealed.live adapter hadapter
    exact ⟨hserves.token, hserves.fresh⟩

lemma removeStateFile_removes :
    PinDoes platform dead s0 (fun s' _ => Grows s s' ∧ s'.tokenFile = s.tokenFile)
      removeStateFile s := by
  refine ⟨hinv, fun s' _ hcan => ?_⟩
  obtain ⟨s1, hother, hdoes⟩ := hcan
  have hsealed := hother.sealed hinv.sealed
  have hsame := hother.same
  cases hdoes with
  | inl heq =>
    subst heq; exact ⟨⟨hsealed, hinv.grows.trans hsame.grows⟩, hsame.grows, hsame.tokenFile⟩
  | inr heq =>
    subst heq
    have hgrows : Grows s1 { s1 with stateFile := none } := ⟨fun _ ht => ht, fun _ hg => hg⟩
    refine ⟨⟨⟨fun adapter hadapter => ?_, hsealed.starting, fun id data hdata => ?_,
      hsealed.drawn⟩, hinv.grows.trans (hsame.grows.trans hgrows)⟩, hsame.grows.trans hgrows,
      hsame.tokenFile⟩
    · have hserves := hsealed.live adapter hadapter
      exact ⟨hserves.token, hserves.fresh⟩
    · cases hdata

end

/-- A process that is left as it was, loses a route, or takes one with a fresh generation. -/
lemma Serves.change (routeId : String) {adapter' : Adapter} (h : Serves dead s adapter)
    (hchange : adapter' = adapter ∨ s.tokenFile = some adapter.controlToken ∧ (adapter' =
      adapter.deleteRoute routeId ∨ ∃ route : RouteRuntime, route.generation ∈ s.generations ∧
      isGeneration route.generation ∧ ¬dead routeId route.generation ∧ adapter' =
      adapter.setRoute routeId route)) :
    Serves dead s adapter' := by
  cases hchange with
  | inl hsame => exact hsame ▸ h
  | inr hchanged =>
  obtain ⟨htoken, hchange⟩ := hchanged
  cases hchange with
  | inl hdelete =>
    subst hdelete
    refine ⟨fun _ _ _ => htoken, fun id route hroute => ?_⟩
    have hthere : (deleteKey adapter.routes routeId).lookup id = some route := hroute
    rw [lookup_deleteKey] at hthere
    split at hthere
    · cases hthere
    · exact h.fresh id route hthere
  | inr hset =>
    obtain ⟨route', hdrawn, hvalid, halive, hset⟩ := hset
    subst hset
    refine ⟨fun _ _ _ => htoken, fun id route hroute => ?_⟩
    have hthere : (setOwn adapter.routes routeId route').lookup id = some route := hroute
    rw [lookup_setOwn] at hthere
    split at hthere
    · next heq =>
      cases hthere
      rw [heq]; exact ⟨hdrawn, hvalid, halive⟩
    · exact h.fresh id route hthere

lemma request_sealed {method : String} {body : RequestBody} (hplatform : Faithful platform)
    (hid : isLowerHexOf 64 routeId) (hmethod : method = "PUT" ∨ method = "DELETE")
    (hbody : ∀ fields, body = .json fields → jsonString fields "generation" ∈ s.generations ∧
      ¬dead routeId (jsonString fields "generation"))
    (htoken : s.tokenFile = some controlToken) (h : Sealed dead s) {response : Response}
    (hhandles : Handles platform s (controlRequest method controlToken routeId body) s' response) :
    Sealed dead s' := by
  obtain ⟨adapter, adapter', hadapter, hhandle, rfl⟩ := hhandles
  rw [handle_controlRequest (hplatform.controlUrl routeId hid) hid hmethod] at hhandle
  have hafter : Serves dead s adapter' := by
    refine (h.live adapter hadapter).change routeId ?_
    cases handleControl_controlRequest hhandle with
    | inl hsame => exact .inl hsame
    | inr hchanged =>
    obtain ⟨hcontrol, hchange⟩ := hchanged
    refine .inr ⟨hcontrol ▸ htoken, ?_⟩
    cases hchange with
    | inl hdelete => exact .inl hdelete
    | inr hset =>
    obtain ⟨fields, route, hjson, hgeneration, hvalid, hset⟩ := hset
    obtain ⟨hdrawn, halive⟩ := hbody fields hjson
    rw [← hgeneration] at hdrawn halive; exact .inr ⟨route, hdrawn, hvalid, halive, hset⟩
  refine ⟨fun other hother => ?_, h.starting, h.recorded, h.drawn⟩
  cases hother; exact ⟨hafter.token, hafter.fresh⟩

/-- What is sent to the control plane, and that a success means it was done. -/
lemma sendControl_sends {method : String} {body : RequestBody} (hplatform : Faithful platform)
    (hid : isLowerHexOf 64 routeId) (hmethod : method = "PUT" ∨ method = "DELETE")
    (hinv : Within dead s0 s)
    (hbody : ∀ fields, body = .json fields → jsonString fields "generation" ∈ s.generations ∧
      ¬dead routeId (jsonString fields "generation"))
    (htoken : s.tokenFile = some controlToken) :
    PinDoes platform dead s0
      (Split (fun s' _ => Same s s' ∧ ∃ s1, Same s s1 ∧
        Handles platform s1 (controlRequest method controlToken routeId body) s' .ok)
        fun s' _ => Same s s')
      (sendControl (controlRequest method controlToken routeId body)) s := by
  refine ⟨hinv, fun s' (answer : Except String Response) hcan => ?_⟩
  have hsparing : (Call.request (controlRequest method controlToken routeId body)).Sparing :=
    trivial
  have hsame : Same s s' := hcan.same hsparing
  obtain ⟨s1, hother, hdoes⟩ := hcan
  have hsame1 : Same s s1 := hother.same
  have hsealed1 := hother.sealed hinv.sealed
  have hsealed : ∀ response, Handles platform s1
      (controlRequest method controlToken routeId body) s' response → Sealed dead s' :=
    fun response hhandles => request_sealed hplatform hid hmethod
      (fun fields hjson => ⟨hsame1.generations (hbody fields hjson).1, (hbody fields hjson).2⟩)
      (hsame1.tokenFile.trans htoken) hsealed1 hhandles
  cases answer with
  | error e =>
    have hafter : Sealed dead s' := by
      cases hdoes with
      | inl heq => exact heq ▸ hsealed1
      | inr hhandles =>
        obtain ⟨response, hhandles⟩ := hhandles; exact hsealed response hhandles
    exact ⟨⟨hafter, hinv.grows.trans hsame.grows⟩, hsame⟩
  | ok response =>
    have hinv' : Within dead s0 s' :=
      ⟨hsealed response hdoes, hinv.grows.trans hsame.grows⟩
    refine Always.ite (fun hok => ⟨hinv', hsame, s1, hsame1, ?_⟩) fun _ => ⟨hinv', hsame⟩
    exact hok ▸ hdoes

/-! ## Registration -/

lemma Fresh.subset {routes routes' : List (String × RoutePersistedMeta)}
    (h : Fresh dead s routes) (hsub : routes' ⊆ routes) : Fresh dead s routes' :=
  fun id data hdata => h id data (hsub hdata)

lemma Fresh.extract {state : AdapterState} (h : Fresh dead s state.routes) :
    Fresh dead s (extractPersistedRoutes (some state)) := h.subset (filter_subset_self _)

lemma extractPersistedRoutes_generation {state : Option AdapterState} {id : String}
    {data : RoutePersistedMeta} (h : (extractPersistedRoutes state).lookup id = some data) :
    isGeneration data.generation := (mem_filter.mp (mem_of_lookup h)).2

structure Usable (dead : String → String → Prop) (s : PinHost) (routeId generation : String) :
    Prop where
  drawn : generation ∈ s.generations
  valid : isGeneration generation
  alive : ¬dead routeId generation

lemma Usable.mono (h : Usable dead s routeId generation)
    (hs : s.generations ⊆ s'.generations) : Usable dead s' routeId generation :=
  ⟨hs h.drawn, h.valid, h.alive⟩

/-- What is recorded for the route, or one that was never drawn before. -/
lemma generationOrRandom_usable {prior : Option RoutePersistedMeta} (hinv : Within dead s0 s)
    (hprior : ∀ data, prior = some data → Usable dead s routeId data.generation) :
    PinDoes platform dead s0
      (Split (fun s' generation => Same s s' ∧ Usable dead s' routeId generation)
        fun _ _ => False)
      (generationOrRandom prior) s := by
  cases prior with
  | some data => exact ⟨hinv, .refl, hprior data rfl⟩
  | none =>
  refine Always.ask hinv fun s' (generation : String) hcan => ?_
  have hsilent : Call.randomGeneration.Silent := trivial
  have hsame : Same s s' := hcan.same hsilent.sparing
  have hsealed : Sealed dead s' := hcan.sealed hsilent hinv.sealed
  obtain ⟨s1, hother, hvalid, hnew, rfl⟩ := hcan
  refine ⟨⟨hsealed, hinv.grows.trans hsame.grows⟩, hsame, mem_cons_self, hvalid, ?_⟩
  -- a dead generation was drawn before
  intro hdead; exact hnew ((hother.sealed hinv.sealed).drawn routeId generation hdead)

lemma findReusableAdapterControlToken_token {priorToken : Option String} (hinv : Within dead s0 s)
    (hprior : priorToken = s.tokenFile) :
    PinDoes platform dead s0
      (Split (fun s' reusable => Same s s' ∧ ∀ token, reusable = some token →
        s'.tokenFile = some token) fun s' _ => Same s s')
      (findReusableAdapterControlToken priorToken cidrs) s := by
  cases priorToken with
  | none => exact ⟨hinv, .refl, nofun⟩
  | some prior =>
  have hprobe : (probeAdapter prior cidrs).Calls Call.Silent := .ask trivial
  refine (silent hprobe hinv).bind (fun s1 healthy hinv1 h1 => ?_) fun s1 e _ h1 => h1
  refine ⟨hinv1, h1, fun token htoken => ?_⟩
  split at htoken
  · cases htoken; exact h1.tokenFile.trans hprior.symm
  · cases htoken

lemma bootAdapter_boots {pid : Option ℕ} {token : String}
    {routes : List (String × RoutePersistedMeta)} (hinv : Within dead s0 s)
    (hfirst : s.tokenFile = none ∨ s.tokenFile = some token) (hfresh : Fresh dead s routes) :
    PinDoes platform dead s0 (Split (fun s' _ => s'.tokenFile = some token) fun _ _ => True)
      (bootAdapter pid token cidrs routes) s := by
  have hpersist : (persistLocalAdapterPid pid).Calls Call.Silent :=
    .bind (.ask trivial) fun _ => .done
  have hwait : (waitForAdapterHealth token cidrs).Calls Call.Silent := .ask trivial
  have hnow : now.Calls Call.Silent := .ask trivial
  refine (silent hpersist hinv).bind (fun s1 _ hinv1 h1 => ?_) fun _ _ _ _ => trivial
  refine (silent hwait hinv1).bind (fun s2 healthy hinv2 h2 => ?_) fun _ _ _ _ => trivial
  have hsame : Same s s2 := h1.trans h2
  refine .ite (fun _ => ⟨hinv2, trivial⟩) fun _ => ?_
  rw [← hsame.tokenFile] at hfirst
  refine (writeTokenFile_writes hinv2 hfirst).bind (fun s3 _ hinv3 h3 => ?_)
    fun _ _ _ _ => trivial
  refine (silent hnow hinv3).bind (fun s4 updatedAt hinv4 h4 => ?_) fun _ _ _ _ => trivial
  have hdrawn : s.generations ⊆ s4.generations := fun g hg =>
    h4.generations (h3.1.generations (hsame.generations hg))
  have hstate : Fresh dead s4 (extractPersistedRoutes
      (some { pid, updatedAt, allowedSourceCidrs := some cidrs, routes })) :=
    (hfresh.mono hdrawn).extract
  refine (writeStateFile_writes hinv4 hstate).mono fun s5 r _ h5 => ?_
  cases r with
  | ok _ => exact h5.2.2.trans (h4.tokenFile.trans h3.2)
  | error e => trivial

lemma Fresh.respawned {routes : List (String × RoutePersistedMeta)} {bootstrap at_ : String}
    (h : Fresh dead s routes) :
    Fresh dead s (computeRespawnState routes bootstrap at_).persistedRoutes := by
  intro id data hdata
  obtain ⟨entry, hentry, heq⟩ := mem_map.mp hdata
  cases heq; exact h entry.1 entry.2 (mem_of_mem_filter hentry)

lemma respawnAdapter_token {priorToken : Option String} (hinv : Within dead s0 s)
    (hprior : priorToken = s.tokenFile) :
    PinDoes platform dead s0 (Split (fun s' token => s'.tokenFile = some token) fun _ _ => True)
      (respawnAdapter routeId cidrs priorToken) s := by
  have hkill : killStaleAdapter.Calls Call.Silent := .bind (.ask trivial) fun _ => .done
  have hnow : now.Calls Call.Silent := .ask trivial
  have hdraw : (Tree.ask Call.randomToken : Program String).Calls Call.Silent := .ask trivial
  refine (silent hkill hinv).bind (fun s1 _ hinv1 h1 => ?_) fun _ _ _ _ => trivial
  -- the token is the one of the record, or there is none in the record
  have htoken : PinDoes platform dead s0 (Split (fun s' token => Same s1 s' ∧
      (s'.tokenFile = none ∨ s'.tokenFile = some token)) fun _ _ => True)
      (tokenOrRandom priorToken) s1 := by
    cases priorToken with
    | some token => exact ⟨hinv1, .refl, .inr (h1.tokenFile.trans hprior.symm)⟩
    | none =>
    refine (silent hdraw hinv1).mono fun s2 r _ h2 => ?_
    cases r with
    | ok token => exact ⟨h2, .inl ((h1.trans h2).tokenFile.trans hprior.symm)⟩
    | error e => trivial
  refine htoken.bind (fun s2 token hinv2 h2 => ?_) fun _ _ _ _ => trivial
  obtain ⟨-, hfirst⟩ := h2
  refine (readStateFile_reads hinv2).bind (fun s3 prior hinv3 h3 => ?_) fun _ _ _ _ => trivial
  obtain ⟨hsame3, rfl⟩ := h3
  refine (silent hnow hinv3).bind (fun s4 orphanedAt hinv4 h4 => ?_) fun _ _ _ _ => trivial
  have hfresh : Fresh dead s3 (extractPersistedRoutes s3.stateFile) := hinv3.sealed.recorded
  have hspawn : (Tree.ask (Call.spawnAdapter token cidrs (computeRespawnState
      (extractPersistedRoutes s3.stateFile) routeId orphanedAt).orphanedRoutes) :
      Program (Option ℕ)).Calls Call.Silent := .ask trivial
  refine (silent hspawn hinv4).bind (fun s5 pid hinv5 h5 => ?_) fun _ _ _ _ => trivial
  have hsame : Same s2 s5 := hsame3.trans (h4.trans h5)
  rw [← hsame.tokenFile] at hfirst
  refine (bootAdapter_boots hinv5 hfirst (hfresh.respawned.mono fun g hg =>
    h5.generations (h4.generations hg))).attempt_bind fun s6 r hinv6 h6 => ?_
  cases r with
  | ok _ => exact ⟨hinv6, h6⟩
  | error e =>
    refine (silent hkill hinv6).bind (fun s7 _ hinv7 _ => ?_) fun _ _ _ _ => trivial
    refine (removeStateFile_removes hinv7).bind (fun s8 _ hinv8 _ => ?_) fun _ _ _ _ => trivial
    exact ⟨hinv8, trivial⟩

lemma ensureAdapterProcessLocked_token (hinv : Within dead s0 s) :
    PinDoes platform dead s0 (Split (fun s' token => s'.tokenFile = some token) fun _ _ => True)
      (ensureAdapterProcessLocked routeId cidrs) s := by
  refine (readTokenFile_reads hinv).bind (fun s1 prior hinv1 h1 => ?_) fun _ _ _ _ => trivial
  obtain ⟨-, rfl⟩ := h1
  refine (findReusableAdapterControlToken_token hinv1 rfl).bind
    (fun s2 reusable hinv2 h2 => ?_) fun _ _ _ _ => trivial
  cases reusable with
  | some token => exact ⟨hinv2, h2.2 token rfl⟩
  | none => exact respawnAdapter_token hinv2 h2.1.tokenFile.symm

lemma persistedPid_silent {prior : Option AdapterState} :
    (persistedPid prior).Calls Call.Silent := by
  unfold persistedPid
  cases prior.bind (·.pid) with
  | some pid => exact .done
  | none => exact .ask trivial

lemma persistRouteState_persists (routeId : String) {data : RoutePersistedMeta}
    {cidrs : Option (List String)}
    (hinv : Within dead s0 s) (hdata : data.generation ∈ s.generations ∧
      ¬dead routeId data.generation) :
    PinDoes platform dead s0 (fun s' _ => s'.tokenFile = s.tokenFile ∧
        s.generations ⊆ s'.generations)
      (persistRouteState routeId data cidrs) s := by
  have hnow : now.Calls Call.Silent := .ask trivial
  refine (readStateFile_reads hinv).bind (fun s1 prior hinv1 h1 => ?_) fun _ _ _ h => h.elim
  obtain ⟨hsame1, rfl⟩ := h1
  refine (silent persistedPid_silent hinv1).bind (fun s2 pid hinv2 h2 => ?_)
    fun s2 e _ h2 => ⟨(hsame1.trans h2).tokenFile, (hsame1.trans h2).generations⟩
  refine (silent hnow hinv2).bind (fun s3 updatedAt hinv3 h3 => ?_)
    fun s3 e _ h3 => ⟨(hsame1.trans (h2.trans h3)).tokenFile,
      (hsame1.trans (h2.trans h3)).generations⟩
  have hsame : Same s s3 := hsame1.trans (h2.trans h3)
  have hfresh : Fresh dead s3 (setOwn (extractPersistedRoutes s1.stateFile) routeId data) := by
    intro id entry hentry
    cases mem_setOwn hentry with
    | inl hnew => cases hnew; exact ⟨hsame.generations hdata.1, hdata.2⟩
    | inr hold =>
      obtain ⟨hdrawn, halive⟩ := hinv1.sealed.recorded id entry hold
      exact ⟨(h2.trans h3).generations hdrawn, halive⟩
  refine (writeStateFile_writes hinv3 hfresh.extract).mono fun s4 r _ h4 => ?_
  cases r with
  | ok _ => exact ⟨h4.2.2.trans hsame.tokenFile, fun g hg => h4.1.generations
      (hsame.generations hg)⟩
  | error e => exact ⟨(hsame.trans h4).tokenFile, (hsame.trans h4).generations⟩

structure Derived (platform : Platform) (s : PinHost) (routeId token generation : String) :
    Prop where
  control : ∃ controlToken, s.tokenFile = some controlToken ∧
    token = deriveRouteToken platform controlToken routeId generation
  drawn : generation ∈ s.generations
  valid : isGeneration generation

theorem registerRouteLocked_issues {options : Registration} (hplatform : Faithful platform)
    (hinv : Within dead s0 s) :
    PinDoes platform dead s0
      (Split (fun s' token => ∃ generation, Derived platform s' options.routeId token generation)
        fun _ _ => True)
      (registerRouteLocked platform options) s := by
  have hnow : now.Calls Call.Silent := .ask trivial
  refine (readStateFile_reads hinv).bind (fun s1 prior hinv1 h1 => ?_) fun _ _ _ _ => trivial
  obtain ⟨-, rfl⟩ := h1
  have hrecorded : ∀ data, (extractPersistedRoutes s1.stateFile).lookup options.routeId =
      some data → Usable dead s1 options.routeId data.generation := by
    intro data hdata
    obtain ⟨hdrawn, halive⟩ := hinv1.sealed.recorded _ _ (mem_of_lookup hdata)
    exact ⟨hdrawn, extractPersistedRoutes_generation hdata, halive⟩
  refine (generationOrRandom_usable hinv1 hrecorded).bind (fun s2 generation hinv2 h2 => ?_)
    fun _ _ _ _ => trivial
  have hensure : PinDoes platform dead s2 (Split (fun s' token => s'.tokenFile = some token)
      fun _ _ => True) (ensureAdapterProcessLocked options.routeId options.allowedSourceCidrs)
      s2 := ensureAdapterProcessLocked_token ⟨hinv2.sealed, .refl⟩
  refine (since hinv2 hensure).bind (fun s3 controlToken hinv3 h3 => ?_) fun _ _ _ _ => trivial
  obtain ⟨hgrows, htoken⟩ := h3
  have husable : Usable dead s3 options.routeId generation := h2.2.mono hgrows.generations
  have hbody : ∀ fields, options.body generation = .json fields →
      jsonString fields "generation" ∈ s3.generations ∧
        ¬dead options.routeId (jsonString fields "generation") := by
    intro fields hfields
    cases hfields; exact ⟨husable.drawn, husable.alive⟩
  refine (sendControl_sends hplatform options.routeId_hex (.inl rfl) hinv3 hbody htoken).bind
    (fun s4 _ hinv4 h4 => ?_) fun _ _ _ _ => trivial
  refine (silent hnow hinv4).bind (fun s5 registeredAt hinv5 h5 => ?_) fun _ _ _ _ => trivial
  have hsame : Same s3 s5 := h4.1.trans h5
  have hafter := husable.mono hsame.generations
  refine (persistRouteState_persists options.routeId hinv5
    ⟨hafter.drawn, hafter.alive⟩).bind (fun s6 _ hinv6 h6 => ?_) fun _ _ _ _ => trivial
  refine ⟨hinv6, generation, ⟨controlToken, ?_, rfl⟩, h6.2 hafter.drawn, husable.valid⟩
  exact h6.1.trans (hsame.tokenFile.trans htoken)

lemma removeRouteState_removes (hinv : Within dead s0 s) :
    PinDoes platform dead s0
      (Split (fun s' _ => s'.tokenFile = s.tokenFile ∧
        ∀ data, (routeId, data) ∉ extractPersistedRoutes s'.stateFile) fun _ _ => True)
      (removeRouteState routeId) s := by
  have hnow : now.Calls Call.Silent := .ask trivial
  refine (readStateFile_reads hinv).bind (fun s1 prior hinv1 h1 => ?_) fun _ _ _ h => h.elim
  obtain ⟨hsame1, rfl⟩ := h1
  refine (silent persistedPid_silent hinv1).bind (fun s2 pid hinv2 h2 => ?_)
    fun _ _ _ _ => trivial
  refine (silent hnow hinv2).bind (fun s3 updatedAt hinv3 h3 => ?_) fun _ _ _ _ => trivial
  have hsame : Same s s3 := hsame1.trans (h2.trans h3)
  have hfresh : Fresh dead s3 (deleteKey (extractPersistedRoutes s1.stateFile) routeId) := by
    intro id entry hentry
    obtain ⟨hdrawn, halive⟩ := hinv1.sealed.recorded id entry (mem_of_mem_filter hentry)
    exact ⟨(h2.trans h3).generations hdrawn, halive⟩
  refine (writeStateFile_writes hinv3 hfresh.extract).mono fun s4 r _ h4 => ?_
  cases r with
  | error e => trivial
  | ok _ =>
  refine ⟨h4.2.2.trans hsame.tokenFile, fun data hdata => ?_⟩
  rw [h4.2.1] at hdata
  have hkept := mem_of_mem_filter hdata
  have hother := (mem_filter.mp hkept).2; simp at hother

def Unserved (s : PinHost) (routeId : String) : Prop :=
  ∀ adapter, s.adapter = some adapter → adapter.routes.lookup routeId = none

lemma Unserved.settles (h : Unserved s routeId) (hsealed : Sealed dead s)
    (hs : Settles s s') : Unserved s' routeId := by
  intro adapter hadapter
  cases hs.live adapter hadapter with
  | inl hbefore =>
    obtain ⟨before, hbefore, hcontinues⟩ := hbefore
    refine Option.eq_none_iff_forall_ne_some.mpr fun route hroute => ?_
    have hthere := hcontinues.routes routeId route hroute
    rw [h before hbefore] at hthere; cases hthere
  | inr hnew =>
    have hempty : adapter.routes = [] := by
      cases hnew with
      | inl hstarted =>
        obtain ⟨before, hbefore, hcontinues⟩ := hstarted
        exact hcontinues.empty (hsealed.starting before hbefore)
      | inr hempty => exact hempty
    rw [hempty]; rfl

lemma Unserved.stays (ht : t.Calls Call.Unsent) {post : PinHost → Except String α → Prop}
    (h : PinDoes platform dead s0 post t s) (hs : Unserved s routeId) :
    PinDoes platform dead s0 (fun s' r => Unserved s' routeId ∧ post s' r) t s := by
  induction t generalizing s with
  | done r => exact ⟨h.1, hs, h.2⟩
  | call q k ih =>
    refine ⟨h.1, fun s' x hcan => ih x (ht.2 x) (h.2 s' x hcan) ?_⟩
    exact hs.settles h.1.sealed (hcan.settles ht.1)

lemma Sealed.unserved (h : Sealed dead s) (htoken : s.tokenFile = none) :
    Unserved s routeId := by
  intro adapter hadapter
  refine Option.eq_none_iff_forall_ne_some.mpr fun route hroute => ?_
  have hsome := (h.live adapter hadapter).token routeId route hroute
  rw [htoken] at hsome; cases hsome

lemma Unserved.of_delete (hplatform : Faithful platform) (hid : isLowerHexOf 64 routeId)
    (h : Handles platform s (controlRequest "DELETE" controlToken routeId .invalid) s' .ok) :
    Unserved s' routeId := by
  obtain ⟨adapter, adapter', -, hhandle, rfl⟩ := h
  rw [handle_controlRequest (hplatform.controlUrl routeId hid) hid (.inr rfl)] at hhandle
  have hdelete : adapter' = adapter.deleteRoute routeId := handleControl_delete rfl hhandle
  intro other hother
  cases hother
  rw [hdelete]; exact (lookup_deleteKey _ _ _).trans (if_pos rfl)

lemma deleteLive_deletes {live : Bool} {controlToken : Option String} {pid : Option ℕ}
    (hplatform : Faithful platform) (hid : isLowerHexOf 64 routeId)
    (hinv : Within dead s0 s) (htoken : controlToken = s.tokenFile) :
    PinDoes platform dead s0 (Split (fun s' _ => Unserved s' routeId) fun _ _ => True)
      (deleteLive live controlToken pid routeId) s := by
  have hask : (isAdapterProcess pid).Calls Call.Silent := .ask trivial
  have hrefuse : PinDoes platform dead s0 (Split (fun s' _ => Unserved s' routeId)
      fun _ _ => True) (refuseIfPresent controlToken pid) s := by
    refine .ite (fun _ => ⟨hinv, trivial⟩) fun hnone => ?_
    have habsent : s.tokenFile = none := by
      rw [← htoken]; simpa using hnone
    refine (silent hask hinv).bind (fun s1 present hinv1 h1 => ?_) fun _ _ _ _ => trivial
    refine .ite (fun _ => ⟨hinv1, trivial⟩) fun _ => ⟨hinv1, ?_⟩
    exact hinv1.sealed.unserved (h1.tokenFile.trans habsent)
  cases live with
  | false => exact hrefuse
  | true =>
  cases controlToken with
  | none => exact hrefuse
  | some token =>
  refine (sendControl_sends hplatform hid (.inr rfl) hinv (fun fields h => by cases h)
    htoken.symm).mono fun s' r _ h => ?_
  cases r with
  | error e => trivial
  | ok _ => obtain ⟨-, s1, -, hhandles⟩ := h; exact .of_delete hplatform hid hhandles

lemma persistedPid_unsent {prior : Option AdapterState} :
    (persistedPid prior).Calls Call.Unsent := by
  unfold persistedPid
  cases prior.bind (·.pid) with
  | some pid => exact .done
  | none => exact .ask trivial

lemma removeRouteState_unsent : (removeRouteState routeId).Calls Call.Unsent :=
  .bind (.ask trivial) fun _ => .bind persistedPid_unsent fun _ =>
    .bind (.ask trivial) fun _ => .bind (.ask trivial) fun _ => .done

/-- What a revocation leaves: the route is not served, and it is not recorded. -/
structure Gone (s : PinHost) (routeId : String) : Prop where
  unserved : Unserved s routeId
  unrecorded : ∀ data, (routeId, data) ∉ extractPersistedRoutes s.stateFile

theorem revokeRouteLocked_removes (hplatform : Faithful platform)
    (hid : isLowerHexOf 64 routeId) (hinv : Within dead s0 s) :
    PinDoes platform dead s0 (Split (fun s' _ => Gone s' routeId) fun _ _ => True)
      (revokeRouteLocked routeId) s := by
  have hload : loadPersistedPid.Calls Call.Silent := .ask trivial
  have hlive : ∀ token cidrs, (authenticateLiveAdapter token cidrs).Calls Call.Silent := by
    intro token cidrs
    unfold authenticateLiveAdapter
    split
    · exact .ask trivial
    · exact .done
  refine (silent hload hinv).bind (fun s1 pid hinv1 _ => ?_) fun _ _ _ _ => trivial
  refine (readTokenFile_reads hinv1).bind (fun s2 controlToken hinv2 h2 => ?_)
    fun _ _ _ _ => trivial
  obtain ⟨-, rfl⟩ := h2
  refine (readStateFile_reads hinv2).bind (fun s3 state hinv3 h3 => ?_) fun _ _ _ _ => trivial
  refine (silent (hlive _ _) hinv3).bind (fun s4 live hinv4 h4 => ?_) fun _ _ _ _ => trivial
  have htoken : s2.tokenFile = s4.tokenFile := (h3.1.trans h4).tokenFile.symm
  refine (deleteLive_deletes hplatform hid hinv4 htoken).bind (fun s5 _ hinv5 h5 => ?_)
    fun _ _ _ _ => trivial
  refine (Unserved.stays removeRouteState_unsent (removeRouteState_removes hinv5) h5).bind
    (fun s6 _ hinv6 h6 => ⟨hinv6, h6.1, h6.2.2⟩) fun _ _ _ _ => trivial

lemma revokeHttpsPinRuntimeAdapterRoute_removes (hplatform : Faithful platform)
    (hinv : Within dead s0 s) :
    PinDoes platform dead s0 (Split (fun s' _ => Gone s' routeId) fun _ _ => True)
      (revokeHttpsPinRuntimeAdapterRoute routeId) s := by
  refine .ite (fun _ => ⟨hinv, trivial⟩) fun hid => ?_
  exact revokeRouteLocked_removes hplatform (by simpa using hid) hinv

end Sealed

end NemoClaw.HttpsPin
