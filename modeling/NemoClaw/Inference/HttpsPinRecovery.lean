import NemoClaw.Inference.HttpsPinRevocation
import NemoClaw.Js.Merge

/- What the record of the HTTPS pin adapter keeps of the routes.

A registration that replaces the process writes the record without its own route, which is
put back at the end; and where the new process does not come up, it removes the record. So a
registration that fails can lose routes that were registered before: its own, or all.

What is provided:
  1. `Maintains` — registrations and revocations one after the other, with the tokens of
     the routes that are registered.
  2. `Spares` — the calls that lose nothing.
  3. `registeredRoute_recoverable` — where all calls are such, every registered route is
     recorded with its generation: it is an orphan of the next process, and keeps its token
     when it is registered again.
  4. `registeredRoute_lost` — where a process does not come up, all routes are lost.
-/
namespace NemoClaw.HttpsPin

open Js CallTree List

def PinHost.recordedGeneration (s : PinHost) (routeId : String) : Option String :=
  (s.recorded routeId).map (·.generation)

section Maintains

/-- What else the calls are asked, with the tokens of the routes that are registered. -/
abbrev Allowed := List (String × String) → PinHost → (q : Call) → q.Answer → Prop

def AllowedCan (platform : Platform) (allowed : Allowed) (registered : List (String × String))
    (s : PinHost) (q : Call) (s' : PinHost) (x : q.Answer) : Prop :=
  PinCan platform s q s' x ∧ allowed registered s q x

/-- Registrations and revocations, with what happens in between. -/
inductive Maintains (platform : Platform) (allowed : Allowed) :
    PinHost → List (String × String) → Prop
  | start : Maintains platform allowed .empty []
  | disturbed {s s' : PinHost} {registered : List (String × String)} :
    Maintains platform allowed s registered → Disturbs platform s s' →
    Maintains platform allowed s' registered
  | registered {s s' : PinHost} {registered : List (String × String)} {token : String}
    (options : Registration) : Maintains platform allowed s registered →
    Ends (AllowedCan platform allowed registered) s (registerRouteLocked platform options) s'
      (.ok token) →
    Maintains platform allowed s' (setOwn registered options.routeId token)
  | unregistered {s s' : PinHost} {registered : List (String × String)} {error : String}
    (options : Registration) : Maintains platform allowed s registered →
    Ends (AllowedCan platform allowed registered) s (registerRouteLocked platform options) s'
      (.error error) →
    Maintains platform allowed s' registered
  | revoked {s s' : PinHost} {registered : List (String × String)} (routeId : String) :
    Maintains platform allowed s registered →
    Ends (AllowedCan platform allowed registered) s
      (revokeHttpsPinRuntimeAdapterRoute routeId) s' (.ok true) →
    Maintains platform allowed s' (deleteKey registered routeId)
  | unrevoked {s s' : PinHost} {registered : List (String × String)} {error : String}
    (routeId : String) : Maintains platform allowed s registered →
    Ends (AllowedCan platform allowed registered) s
      (revokeHttpsPinRuntimeAdapterRoute routeId) s' (.error error) →
    Maintains platform allowed s' registered

def OnRecord (registered : List (String × String)) (s : PinHost) : Prop :=
  ∀ id token, registered.lookup id = some token → s.recordedGeneration id ≠ none

/-- The record is removed only while no route is registered, and no request to the adapter and
no write of the record fails while a registered route is off the record. -/
def Spares : Allowed := fun registered s q x =>
  match q, x with
  | .removeStateFile, _ => ∀ id, registered.lookup id = none
  | .request _, x => x ≠ .ok Response.ok → OnRecord registered s
  | .writeStateFile _, x => x ≠ .ok () → OnRecord registered s
  | _, _ => True

end Maintains

section Record

variable {platform : Platform} {registered : List (String × String)} {s s' s'' : PinHost}
  {routeId : String}

/-- Entries that are well formed are all read back. -/
lemma extractPersistedRoutes_valid {state : AdapterState}
    (h : ∀ entry ∈ state.routes, isGeneration entry.2.generation) :
    extractPersistedRoutes (some state) = state.routes := filter_eq_self.mpr h

lemma recordedGeneration_valid {state : AdapterState} (hstate : s.stateFile = some state)
    (h : ∀ entry ∈ state.routes, isGeneration entry.2.generation) (id : String) :
    s.recordedGeneration id = (state.routes.lookup id).map (·.generation) := by
  unfold PinHost.recordedGeneration PinHost.recorded
  rw [hstate, extractPersistedRoutes_valid h]

lemma mem_extractPersistedRoutes {state : Option AdapterState}
    {entry : String × RoutePersistedMeta} (h : entry ∈ extractPersistedRoutes state) :
    isGeneration entry.2.generation := (mem_filter.mp h).2

lemma computeRespawnState_lookup (state : Option AdapterState) (bootstrap at_ id : String) :
    ((computeRespawnState (extractPersistedRoutes state) bootstrap at_).persistedRoutes.lookup
      id).map (·.generation) =
      if id = bootstrap then none
      else ((extractPersistedRoutes state).lookup id).map (·.generation) := by
  have hkept : respawnedRoutes (extractPersistedRoutes state) bootstrap =
      (extractPersistedRoutes state).filter fun entry => decide (entry.1 ≠ bootstrap) := by
    refine filter_congr fun entry hentry => ?_
    rw [mem_extractPersistedRoutes hentry, Bool.and_true]
  unfold computeRespawnState
  rw [hkept]
  have hmap := lookup_map_keyed
    (fun _ (data : RoutePersistedMeta) => { data with orphanedAt := some at_ })
    ((extractPersistedRoutes state).filter fun entry => decide (entry.1 ≠ bootstrap)) id
  have hfilter := lookup_filter_key (fun key => decide (key ≠ bootstrap))
    (extractPersistedRoutes state) id
  rw [hmap, hfilter]
  by_cases hid : id = bootstrap
  · simp [hid]
  · cases hfound : (extractPersistedRoutes state).lookup id <;> simp [hid]

lemma computeRespawnState_valid {state : Option AdapterState} {bootstrap at_ : String} :
    ∀ entry ∈ (computeRespawnState (extractPersistedRoutes state) bootstrap at_).persistedRoutes,
      isGeneration entry.2.generation := by
  intro entry hentry
  obtain ⟨before, hbefore, rfl⟩ := mem_map.mp hentry
  have hfound : before ∈ extractPersistedRoutes state := mem_of_mem_filter hbefore
  have hvalid : isGeneration before.2.generation := mem_extractPersistedRoutes hfound
  exact hvalid

/-- The routes that are registered have their tokens. -/
def Held (platform : Platform) (registered : List (String × String)) (s : PinHost) : Prop :=
  ∀ id token, registered.lookup id = some token → ∃ controlToken generation,
    s.tokenFile = some controlToken ∧ s.recordedGeneration id = some generation ∧
    token = deriveRouteToken platform controlToken id generation

structure Keeps (routeId : String) (s s' : PinHost) : Prop where
  token : ∀ token, s.tokenFile = some token → s'.tokenFile = some token
  others : ∀ id, id ≠ routeId → s'.recordedGeneration id = s.recordedGeneration id
  own : s'.recordedGeneration routeId = none ∨
    s'.recordedGeneration routeId = s.recordedGeneration routeId

structure Stays (s s' : PinHost) : Prop where
  token : ∀ token, s.tokenFile = some token → s'.tokenFile = some token
  recorded : ∀ id, s'.recordedGeneration id = s.recordedGeneration id

lemma Same.stays (h : Same s s') : Stays s s' where
  token := fun _ htoken => h.tokenFile.trans htoken
  recorded := fun id => by
    unfold PinHost.recordedGeneration
    rw [h.recorded id]

lemma Stays.trans (h : Stays s s') (h' : Stays s' s'') : Stays s s'' :=
  ⟨fun token htoken => h'.token token (h.token token htoken),
    fun id => (h'.recorded id).trans (h.recorded id)⟩

lemma Stays.keeps (h : Stays s s') : Keeps routeId s s' :=
  ⟨h.token, fun id _ => h.recorded id, .inr (h.recorded routeId)⟩

lemma Stays.held (h : Stays s s') (hs : Held platform registered s) :
    Held platform registered s' := by
  intro id token hid
  obtain ⟨controlToken, generation, htoken, hgeneration, hderived⟩ := hs id token hid
  exact ⟨controlToken, generation, h.token controlToken htoken,
    (h.recorded id).trans hgeneration, hderived⟩

lemma Keeps.trans (h : Keeps routeId s s') (h' : Keeps routeId s' s'') :
    Keeps routeId s s'' where
  token := fun token htoken => h'.token token (h.token token htoken)
  others := fun id hid => (h'.others id hid).trans (h.others id hid)
  own := by
    cases h'.own with
    | inl hnone => exact .inl hnone
    | inr hsame => rw [hsame]; exact h.own

lemma Keeps.held (h : Keeps routeId s s') (hs : Held platform registered s)
    (hrecord : OnRecord registered s') : Held platform registered s' := by
  intro id token hid
  obtain ⟨controlToken, generation, htoken, hgeneration, hderived⟩ := hs id token hid
  refine ⟨controlToken, generation, h.token controlToken htoken, ?_, hderived⟩
  by_cases hown : id = routeId
  · subst hown
    cases h.own with
    | inl hnone => exact absurd hnone (hrecord id token hid)
    | inr hsame => exact hsame.trans hgeneration
  · exact (h.others id hown).trans hgeneration

lemma Held.of_empty (h : ∀ id, registered.lookup id = none) : Held platform registered s := by
  intro id token hid
  rw [h id] at hid; cases hid

end Record

/-! ## The commands -/

section Commands

variable {platform : Platform} {registered : List (String × String)} {s s' s'' : PinHost}
  {routeId generation : String} {α : Type} {t : Program α}

abbrev Recovers {α : Type} (platform : Platform) (registered : List (String × String))
    (post : PinHost → Except String α → Prop) (t : Program α) (s : PinHost) : Prop :=
  Always (AllowedCan platform Spares registered) (fun _ => True) post t s

lemma sparing (ht : t.Calls Call.Sparing) :
    Recovers platform registered (fun s' _ => Same s s') t s := by
  refine Always.of_calls ht (fun _ _ => trivial) (fun s1 q s2 x hq hcan h => ?_) .refl
  exact h.trans (hcan.1.same hq)

lemma readTokenFile_same : Recovers platform registered
    (Split (fun s' token => Same s s' ∧ token = s'.tokenFile) fun _ _ => False)
    readTokenFile s := by
  refine Always.ask trivial fun s' (token : Option String) hcan => ⟨trivial, ?_⟩
  have hsame : Same s s' := hcan.1.same (q := Call.readTokenFile) trivial
  obtain ⟨⟨s1, -, rfl, rfl⟩, -⟩ := hcan; exact ⟨hsame, rfl⟩

lemma readStateFile_same : Recovers platform registered
    (Split (fun s' state => Same s s' ∧ state = s'.stateFile) fun _ _ => False)
    readStateFile s := by
  refine Always.ask trivial fun s' (state : Option AdapterState) hcan => ⟨trivial, ?_⟩
  have hsame : Same s s' := hcan.1.same (q := Call.readStateFile) trivial
  obtain ⟨⟨s1, -, rfl, rfl⟩, -⟩ := hcan; exact ⟨hsame, rfl⟩

lemma writeTokenFile_stays {token : String}
    (hfirst : s.tokenFile = none ∨ s.tokenFile = some token) : Recovers platform registered
      (Split (fun s' _ => Stays s s' ∧ s'.tokenFile = some token) fun s' _ => Stays s s')
      (writeTokenFile token) s := by
  refine ⟨trivial, fun s' (answer : Except String Unit) hcan => ⟨trivial, ?_⟩⟩
  obtain ⟨⟨s1, hother, hdoes⟩, -⟩ := hcan
  have hsame := hother.same
  cases answer with
  | error e =>
    have heq : s' = s1 := hdoes
    subst heq; exact hsame.stays
  | ok _ =>
    have heq : s' = { s1 with tokenFile := some token } := hdoes
    subst heq
    refine ⟨⟨fun other hother => ?_, hsame.stays.recorded⟩, rfl⟩
    cases hfirst with
    | inl hnone => exact absurd (hnone.symm.trans hother) (by simp)
    | inr hsome => exact hsome.symm.trans hother

lemma writeStateFile_written {state : AdapterState} : Recovers platform registered
    (Split (fun s' _ => s'.stateFile = some state ∧ s'.tokenFile = s.tokenFile)
      fun s' _ => Same s s' ∧ OnRecord registered s)
    (writeStateFile state) s := by
  refine ⟨trivial, fun s' (answer : Except String Unit) hcan => ⟨trivial, ?_⟩⟩
  obtain ⟨⟨s1, hother, hdoes⟩, hspares⟩ := hcan
  cases answer with
  | error e =>
    have heq : s' = s1 := hdoes
    subst heq; exact ⟨hother.same, hspares nofun⟩
  | ok _ =>
    have heq : s' = { s1 with stateFile := some state } := hdoes
    subst heq; exact ⟨rfl, hother.same.tokenFile⟩

lemma sendControl_same {req : Request} : Recovers platform registered
    (Split (fun s' _ => Same s s') fun s' _ => Same s s' ∧ OnRecord registered s)
    (sendControl req) s := by
  refine ⟨trivial, fun s' (answer : Except String Response) hcan => ?_⟩
  have hsame : Same s s' := hcan.1.same (q := Call.request req) trivial
  have hspares := hcan.2
  cases answer with
  | error e => exact ⟨trivial, hsame, hspares nofun⟩
  | ok response =>
    refine Always.ite (fun _ => ⟨trivial, hsame⟩) fun hrefused => ⟨trivial, hsame, hspares ?_⟩
    intro hok; exact hrefused (Except.ok.inj hok)

lemma bootAdapter_keeps {pid : Option ℕ} {token : String} {cidrs : List String}
    {routes : List (String × RoutePersistedMeta)}
    (hfirst : s.tokenFile = none ∨ s.tokenFile = some token)
    (hvalid : ∀ entry ∈ routes, isGeneration entry.2.generation)
    (hroutes : ∀ id, (routes.lookup id).map (·.generation) =
      if id = routeId then none else s.recordedGeneration id) :
    Recovers platform registered
      (Split (fun s' _ => Keeps routeId s s' ∧ s'.tokenFile = some token) fun s' _ => Stays s s')
      (bootAdapter pid token cidrs routes) s := by
  have hpersist : (persistLocalAdapterPid pid).Calls Call.Sparing :=
    .bind (.ask trivial) fun _ => .done
  have hwait : (waitForAdapterHealth token cidrs).Calls Call.Sparing := .ask trivial
  have hnow : now.Calls Call.Sparing := .ask trivial
  refine (sparing hpersist).bind (fun s1 _ _ h1 => ?_) fun _ _ _ h1 => h1.stays
  refine (sparing hwait).bind (fun s2 healthy _ h2 => ?_) fun _ _ _ h2 => (h1.trans h2).stays
  have hsame : Same s s2 := h1.trans h2
  refine .ite (fun _ => ⟨trivial, hsame.stays⟩) fun _ => ?_
  rw [← hsame.tokenFile] at hfirst
  refine (writeTokenFile_stays hfirst).bind (fun s3 _ _ h3 => ?_)
    fun _ _ _ h3 => hsame.stays.trans h3
  refine (sparing hnow).bind (fun s4 updatedAt _ h4 => ?_)
    fun _ _ _ h4 => hsame.stays.trans (h3.1.trans h4.stays)
  have hstays : Stays s s4 := hsame.stays.trans (h3.1.trans h4.stays)
  refine writeStateFile_written.mono fun s5 r _ h5 => ?_
  cases r with
  | error e => exact hstays.trans h5.1.stays
  | ok _ =>
  have hrecorded : ∀ id, s5.recordedGeneration id =
      if id = routeId then none else s.recordedGeneration id :=
    fun id => (recordedGeneration_valid h5.1 hvalid id).trans (hroutes id)
  refine ⟨⟨fun other hother => ?_, fun id hid => ?_, ?_⟩, ?_⟩
  · exact h5.2.trans (hstays.token other hother)
  · rw [hrecorded id, if_neg hid]
  · rw [hrecorded routeId, if_pos rfl]; exact .inl rfl
  · exact h5.2.trans (h4.tokenFile.trans h3.2)

/-- The record goes with a process that does not come up, but not while a route is registered. -/
lemma bootFailed_held {error : String} (hs : Held platform registered s) :
    Recovers platform registered (Split (fun _ _ => False) fun s' _ => Held platform registered s')
      (bootFailed error) s := by
  have hkill : killStaleAdapter.Calls Call.Sparing := .bind (.ask trivial) fun _ => .done
  refine (sparing hkill).bind (fun s1 _ _ _ => ?_) fun s1 _ _ h1 => h1.stays.held hs
  exact ⟨trivial, fun s' _ hcan => ⟨trivial, .of_empty hcan.2⟩⟩

lemma respawnAdapter_keeps {priorToken : Option String} {cidrs : List String}
    (hprior : priorToken = s.tokenFile) (hs : Held platform registered s) :
    Recovers platform registered
      (Split (fun s' token => Keeps routeId s s' ∧ s'.tokenFile = some token)
        fun s' _ => Held platform registered s')
      (respawnAdapter routeId cidrs priorToken) s := by
  have hkill : killStaleAdapter.Calls Call.Sparing := .bind (.ask trivial) fun _ => .done
  have hnow : now.Calls Call.Sparing := .ask trivial
  refine (sparing hkill).bind (fun s1 _ _ h1 => ?_) fun _ _ _ h1 => h1.stays.held hs
  -- the token is the one of the record, or there is none in the record
  have htoken : Recovers platform registered (Split (fun s' token => Same s1 s' ∧
      (s'.tokenFile = none ∨ s'.tokenFile = some token)) fun s' _ => Same s1 s')
      (tokenOrRandom priorToken) s1 := by
    cases priorToken with
    | some token => exact ⟨trivial, .refl, .inr (h1.tokenFile.trans hprior.symm)⟩
    | none =>
    have hdraw : (Tree.ask Call.randomToken : Program String).Calls Call.Sparing := .ask trivial
    refine (sparing hdraw).mono fun s2 r _ h2 => ?_
    cases r with
    | ok token => exact ⟨h2, .inl ((h1.trans h2).tokenFile.trans hprior.symm)⟩
    | error e => exact h2
  refine htoken.bind (fun s2 token _ h2 => ?_) fun _ _ _ h2 => (h1.trans h2).stays.held hs
  obtain ⟨hsame2, hfirst⟩ := h2
  refine readStateFile_same.bind (fun s3 prior _ h3 => ?_) fun _ _ _ h => h.elim
  obtain ⟨hsame3, rfl⟩ := h3
  refine (sparing hnow).bind (fun s4 orphanedAt _ h4 => ?_)
    fun _ _ _ h4 => (h1.trans (hsame2.trans (hsame3.trans h4))).stays.held hs
  have hspawn : (Tree.ask (Call.spawnAdapter token cidrs (computeRespawnState
      (extractPersistedRoutes s3.stateFile) routeId orphanedAt).orphanedRoutes) :
      Program (Option ℕ)).Calls Call.Sparing := .ask trivial
  refine (sparing hspawn).bind (fun s5 pid _ h5 => ?_)
    fun _ _ _ h5 => (h1.trans (hsame2.trans (hsame3.trans (h4.trans h5)))).stays.held hs
  have hsame4 : Same s3 s5 := h4.trans h5
  have hsame : Same s s5 := h1.trans (hsame2.trans (hsame3.trans hsame4))
  rw [← (hsame3.trans hsame4).tokenFile] at hfirst
  have hroutes : ∀ id, ((computeRespawnState (extractPersistedRoutes s3.stateFile) routeId
      orphanedAt).persistedRoutes.lookup id).map (·.generation) =
      if id = routeId then none else s5.recordedGeneration id := by
    intro id
    rw [computeRespawnState_lookup, hsame4.stays.recorded id]; rfl
  refine (bootAdapter_keeps hfirst computeRespawnState_valid hroutes).attempt_bind
    fun s6 r _ h6 => ?_
  cases r with
  | ok _ => exact ⟨trivial, hsame.stays.keeps.trans h6.1, h6.2⟩
  | error e =>
  refine (bootFailed_held (h6.held (hsame.stays.held hs))).mono fun s7 r _ h7 => ?_
  cases r with
  | ok token => exact h7.elim
  | error e => exact h7

lemma ensureAdapterProcessLocked_keeps {cidrs : List String}
    (hs : Held platform registered s) : Recovers platform registered
      (Split (fun s' token => Keeps routeId s s' ∧ s'.tokenFile = some token)
        fun s' _ => Held platform registered s')
      (ensureAdapterProcessLocked routeId cidrs) s := by
  refine readTokenFile_same.bind (fun s1 prior _ h1 => ?_) fun _ _ _ h => h.elim
  obtain ⟨hsame1, rfl⟩ := h1
  have hfind : Recovers platform registered (Split (fun s' reusable => Same s1 s' ∧
      ∀ token, reusable = some token → s'.tokenFile = some token) fun _ _ => False)
      (findReusableAdapterControlToken s1.tokenFile cidrs) s1 := by
    cases hprior : s1.tokenFile with
    | none => exact ⟨trivial, .refl, nofun⟩
    | some prior =>
    refine ⟨trivial, fun s' healthy hcan => ⟨trivial, ?_⟩⟩
    have hsame : Same s1 s' :=
      hcan.1.same (q := Call.probeAdapterControlHealth prior cidrs) trivial
    refine ⟨hsame, fun token htoken => ?_⟩
    split at htoken
    · cases htoken; exact hsame.tokenFile.trans hprior
    · cases htoken
  refine hfind.bind (fun s2 reusable _ h2 => ?_) fun _ _ _ h => h.elim
  have hsame : Same s s2 := hsame1.trans h2.1
  cases reusable with
  | some token => exact ⟨trivial, hsame.stays.keeps, h2.2 token rfl⟩
  | none =>
  refine (respawnAdapter_keeps h2.1.tokenFile.symm (hsame.stays.held hs)).mono
    fun s3 r _ h3 => ?_
  cases r with
  | ok token => exact ⟨hsame.stays.keeps.trans h3.1, h3.2⟩
  | error e => exact h3

lemma generationOrRandom_recorded :
    Recovers platform registered
      (Split (fun s' generation => Same s s' ∧ isGeneration generation ∧
        ∀ recorded, s.recordedGeneration routeId = some recorded → generation = recorded)
        fun _ _ => False)
      (generationOrRandom ((extractPersistedRoutes s.stateFile).lookup routeId)) s := by
  cases hfound : (extractPersistedRoutes s.stateFile).lookup routeId with
  | some data =>
    have hrecorded : s.recordedGeneration routeId = some data.generation := by
      unfold PinHost.recordedGeneration PinHost.recorded
      rw [hfound]; rfl
    refine ⟨trivial, .refl, extractPersistedRoutes_generation hfound, fun other hother => ?_⟩
    exact Option.some.inj (hrecorded.symm.trans hother)
  | none =>
    refine Always.ask trivial fun s' (generation : String) hcan => ⟨trivial, ?_⟩
    have hsame : Same s s' := hcan.1.same (q := Call.randomGeneration) trivial
    obtain ⟨⟨s1, -, hvalid, -, -⟩, -⟩ := hcan
    refine ⟨hsame, hvalid, fun other hother => ?_⟩
    unfold PinHost.recordedGeneration PinHost.recorded at hother
    rw [hfound] at hother; cases hother

lemma asked {q : Call} (hq : q.Sparing) : Recovers platform registered
    (Split (fun s' _ => Same s s') fun _ _ => False) (Tree.ask q) s :=
  Always.ask trivial fun _ _ hcan => ⟨trivial, hcan.1.same hq⟩

lemma persistedPid_same {prior : Option AdapterState} : Recovers platform registered
    (Split (fun s' _ => Same s s') fun _ _ => False) (persistedPid prior) s := by
  unfold persistedPid
  cases prior.bind (·.pid) with
  | some pid => exact ⟨trivial, .refl⟩
  | none => have hload : Call.loadPersistedPid.Sparing := trivial; exact asked hload

lemma now_same : Recovers platform registered
    (Split (fun s' _ => Same s s') fun _ _ => False) now s := by
  have hnow : Call.now.Sparing := trivial; exact asked hnow

lemma setOwn_valid {state : Option AdapterState} {data : RoutePersistedMeta}
    (hvalid : isGeneration data.generation) :
    ∀ entry ∈ setOwn (extractPersistedRoutes state) routeId data,
      isGeneration entry.2.generation := by
  intro entry hentry
  cases mem_setOwn hentry with
  | inl hnew => exact hnew ▸ hvalid
  | inr hold => exact mem_extractPersistedRoutes hold

lemma deleteKey_valid {state : Option AdapterState} :
    ∀ entry ∈ deleteKey (extractPersistedRoutes state) routeId,
      isGeneration entry.2.generation :=
  fun _ hentry => mem_extractPersistedRoutes (mem_of_mem_filter hentry)

lemma persistRouteState_records {providerType : HttpsPinCredentialProviderType}
    {registeredAt : String} {cidrs : Option (List String)}
    (hvalid : isGeneration generation) : Recovers platform registered
      (Split (fun s' _ => s'.tokenFile = s.tokenFile ∧
        ∀ id, s'.recordedGeneration id =
          if id = routeId then some generation else s.recordedGeneration id)
        fun s' _ => Same s s' ∧ OnRecord registered s')
      (persistRouteState routeId ⟨providerType, generation, registeredAt, none⟩ cidrs) s := by
  refine readStateFile_same.bind (fun s1 prior _ h1 => ?_) fun _ _ _ h => h.elim
  obtain ⟨hsame1, rfl⟩ := h1
  refine persistedPid_same.bind (fun s2 pid _ h2 => ?_) fun _ _ _ h => h.elim
  refine now_same.bind (fun s3 updatedAt _ h3 => ?_) fun _ _ _ h => h.elim
  have hsame : Same s s3 := hsame1.trans (Same.trans h2 h3)
  refine writeStateFile_written.mono fun s4 r _ h4 => ?_
  cases r with
  | error e =>
    refine ⟨hsame.trans h4.1, fun id token hid => ?_⟩
    rw [h4.1.stays.recorded id]; exact h4.2 id token hid
  | ok _ =>
    refine ⟨h4.2.trans hsame.tokenFile, fun id => ?_⟩
    rw [recordedGeneration_valid h4.1 (setOwn_valid hvalid) id, lookup_setOwn,
      ← hsame1.stays.recorded id]
    by_cases hid : id = routeId
    · simp [hid]
    · rw [if_neg hid, if_neg hid]; rfl

structure Registered (platform : Platform) (s s' : PinHost) (routeId token : String) :
    Prop where
  derived : ∃ controlToken generation, s'.tokenFile = some controlToken ∧
    s'.recordedGeneration routeId = some generation ∧
    token = deriveRouteToken platform controlToken routeId generation
  own : ∀ recorded, s.recordedGeneration routeId = some recorded →
    s'.recordedGeneration routeId = some recorded
  token : ∀ token, s.tokenFile = some token → s'.tokenFile = some token
  others : ∀ id, id ≠ routeId → s'.recordedGeneration id = s.recordedGeneration id

lemma registerRouteLocked_registers {options : Registration}
    (hs : Held platform registered s) : Recovers platform registered
      (Split (fun s' token => Registered platform s s' options.routeId token)
        fun s' _ => Held platform registered s')
      (registerRouteLocked platform options) s := by
  refine readStateFile_same.bind (fun s1 prior _ h1 => ?_) fun _ _ _ h => h.elim
  obtain ⟨hsame1, rfl⟩ := h1
  refine generationOrRandom_recorded.bind (fun s2 generation _ h2 => ?_) fun _ _ _ h => h.elim
  obtain ⟨hsame2, hvalid, hgeneration⟩ := h2
  have hsame : Same s s2 := hsame1.trans hsame2
  have hheld2 : Held platform registered s2 := hsame.stays.held hs
  refine (ensureAdapterProcessLocked_keeps hheld2).bind (fun s3 controlToken _ h3 => ?_)
    fun _ _ _ h3 => h3
  obtain ⟨hkeeps3, htoken⟩ := h3
  refine sendControl_same.bind (fun s4 _ _ h4 => ?_)
    fun _ _ _ h4 => h4.1.stays.held (hkeeps3.held hheld2 h4.2)
  refine now_same.bind (fun s5 registeredAt _ h5 => ?_) fun _ _ _ h => h.elim
  have hsame5 : Same s3 s5 := Same.trans h4 h5
  have hkeeps : Keeps options.routeId s2 s5 := hkeeps3.trans hsame5.stays.keeps
  refine (persistRouteState_records hvalid).bind (fun s6 _ _ h6 => ⟨trivial, ?_⟩)
    fun _ _ _ h6 => (hkeeps.trans h6.1.stays.keeps).held hheld2 h6.2
  have hown : s6.recordedGeneration options.routeId = some generation := by
    rw [h6.2, if_pos rfl]
  refine ⟨⟨controlToken, generation, ?_, hown, rfl⟩, fun recorded hrecorded => ?_,
    fun token htoken0 => ?_, fun id hid => ?_⟩
  · exact h6.1.trans (hsame5.tokenFile.trans htoken)
  · rw [hown, hgeneration recorded ((hsame1.stays.recorded _).trans hrecorded)]
  · exact h6.1.trans (hkeeps.token token (hsame.stays.token token htoken0))
  · rw [h6.2, if_neg hid, hkeeps.others id hid, hsame.stays.recorded id]

/-- A revocation takes its route off the record, or it changes nothing. -/
lemma revokeHttpsPinRuntimeAdapterRoute_keeps : Recovers platform registered
    (Split (fun s' _ => Keeps routeId s s') fun s' _ => Same s s')
    (revokeHttpsPinRuntimeAdapterRoute routeId) s := by
  refine .ite (fun _ => ⟨trivial, .refl⟩) fun _ => ?_
  have hload : loadPersistedPid.Calls Call.Sparing := .ask trivial
  have hlive : ∀ token cidrs, (authenticateLiveAdapter token cidrs).Calls Call.Sparing := by
    intro token cidrs
    unfold authenticateLiveAdapter
    split
    · exact .ask trivial
    · exact .done
  have hrefuse : ∀ token pid, (refuseIfPresent token pid).Calls Call.Sparing :=
    fun token pid => .ite (fun _ => .done) fun _ =>
      .bind (.ask trivial) fun present => .ite (fun _ => .done) fun _ => .done
  have hdelete : ∀ live token pid, (deleteLive live token pid routeId).Calls Call.Sparing := by
    intro live token pid
    unfold deleteLive
    split
    · exact .bind (.ask trivial) fun answer => .bind (by cases answer <;> exact .done)
        fun response => .ite (fun _ => .done) fun _ => .done
    · exact hrefuse _ _
  refine (sparing hload).bind (fun s1 pid _ h1 => ?_) fun _ _ _ h1 => h1
  refine readTokenFile_same.bind (fun s2 controlToken _ h2 => ?_) fun _ _ _ h => h.elim
  refine readStateFile_same.bind (fun s3 state _ h3 => ?_) fun _ _ _ h => h.elim
  have hsame3 : Same s s3 := Same.trans h1 (h2.1.trans h3.1)
  refine (sparing (hlive _ _)).bind (fun s4 live _ h4 => ?_) fun _ _ _ h4 => hsame3.trans h4
  refine (sparing (hdelete _ _ _)).bind (fun s5 _ _ h5 => ?_)
    fun _ _ _ h5 => hsame3.trans (Same.trans h4 h5)
  have hsame5 : Same s s5 := hsame3.trans (Same.trans h4 h5)
  have hremove : Recovers platform registered
      (Split (fun s' _ => Keeps routeId s5 s') fun s' _ => Same s5 s')
      (removeRouteState routeId) s5 := by
    refine readStateFile_same.bind (fun s6 prior _ h6 => ?_) fun _ _ _ h => h.elim
    obtain ⟨hsame6, rfl⟩ := h6
    refine persistedPid_same.bind (fun s7 pid _ h7 => ?_) fun _ _ _ h => h.elim
    refine now_same.bind (fun s8 updatedAt _ h8 => ?_) fun _ _ _ h => h.elim
    have hsame : Same s5 s8 := hsame6.trans (Same.trans h7 h8)
    refine writeStateFile_written.mono fun s9 r _ h9 => ?_
    cases r with
    | error e => exact hsame.trans h9.1
    | ok _ =>
    have hrecorded : ∀ id, s9.recordedGeneration id =
        if id = routeId then none else s5.recordedGeneration id := by
      intro id
      rw [recordedGeneration_valid h9.1 deleteKey_valid id, lookup_deleteKey,
        ← hsame6.stays.recorded id]
      by_cases hid : id = routeId
      · simp [hid]
      · rw [if_neg hid, if_neg hid]; rfl
    refine ⟨fun token htoken => ?_, fun id hid => ?_, .inl ?_⟩
    · exact h9.2.trans (hsame.stays.token token htoken)
    · rw [hrecorded id, if_neg hid]
    · rw [hrecorded routeId, if_pos rfl]
  refine hremove.bind (fun s6 _ _ h6 => ⟨trivial, hsame5.stays.keeps.trans h6⟩)
    fun _ _ _ h6 => hsame5.trans h6

end Commands

/-! ## Runs -/

section Runs

variable {platform : Platform} {registered : List (String × String)} {s s' : PinHost}
  {routeId token : String}

lemma Registered.held (h : Registered platform s s' routeId token)
    (hs : Held platform registered s) : Held platform (setOwn registered routeId token) s' := by
  intro id other hid
  rw [lookup_setOwn] at hid
  split at hid
  · next heq =>
    subst heq
    cases hid; exact h.derived
  · next hne =>
    obtain ⟨controlToken, generation, htoken, hgeneration, hderived⟩ := hs id other hid
    exact ⟨controlToken, generation, h.token controlToken htoken,
      (h.others id hne).trans hgeneration, hderived⟩

lemma Keeps.held_deleteKey (h : Keeps routeId s s') (hs : Held platform registered s) :
    Held platform (deleteKey registered routeId) s' := by
  intro id other hid
  rw [lookup_deleteKey] at hid
  split at hid
  · cases hid
  next hne =>
  obtain ⟨controlToken, generation, htoken, hgeneration, hderived⟩ := hs id other hid
  exact ⟨controlToken, generation, h.token controlToken htoken,
    (h.others id hne).trans hgeneration, hderived⟩

/-- A registration or a revocation whose calls lose nothing keeps every registered route. -/
lemma Maintains.held (h : Maintains platform Spares s registered) :
    Held platform registered s := by
  induction h with
  | start => exact .of_empty fun _ => rfl
  | disturbed _ hdisturbs ih => exact hdisturbs.same.stays.held ih
  | registered options _ hends ih =>
    have hregistered := (registerRouteLocked_registers ih).ends hends
    exact Registered.held hregistered ih
  | unregistered options _ hends ih => exact (registerRouteLocked_registers ih).ends hends
  | revoked routeId _ hends ih =>
    have hkeeps := revokeHttpsPinRuntimeAdapterRoute_keeps.ends hends
    exact Keeps.held_deleteKey hkeeps ih
  | unrevoked routeId _ hends ih =>
    have hsame := revokeHttpsPinRuntimeAdapterRoute_keeps.ends hends
    exact (Same.stays hsame).held ih

/-- The process that the registration of a route starts. -/
def respawned (platform : Platform) (s : PinHost) (controlToken : String)
    (sourceCidrs : List String) (bootstrapRouteId orphanedAt : String) : Adapter where
  controlToken := controlToken
  allowedSourceCidrs := sourceCidrs
  identity := platform.currentIdentity
  routes := []
  orphanedRoutes := parseOrphanedRoutes (computeRespawnState
    (extractPersistedRoutes s.stateFile) bootstrapRouteId orphanedAt).orphanedRoutes

structure RequestsRoute (platform : Platform) (sourceCidrs : List String) (routeId token : String)
    (providerType : HttpsPinCredentialProviderType) (req : Request) : Prop where
  path : ∃ pathname search suffix, platform.requestUrl req.url = some (pathname, search) ∧
    routeMatch pathname = some (routeId, suffix)
  method : req.method ≠ "TRACE" ∧ req.method ≠ "TRACK"
  source : allowedRouteSource platform sourceCidrs req.remoteAddress
  token : routeAuthMatches req token providerType

structure Recoverable (platform : Platform) (s : PinHost) (routeId token : String) : Prop where
  recorded : ∃ data controlToken, s.recorded routeId = some data ∧
    s.tokenFile = some controlToken ∧
    token = deriveRouteToken platform controlToken routeId data.generation ∧
    ∀ sourceCidrs bootstrapRouteId orphanedAt req, bootstrapRouteId ≠ routeId →
      RequestsRoute platform sourceCidrs routeId token data.providerType req →
      ((respawned platform s controlToken sourceCidrs bootstrapRouteId orphanedAt).handle platform
        req).2 = .failed 503 "route_needs_recovery"
  again : ∀ (options : Registration) s' token', options.routeId = routeId →
    Ends (PinCan platform) s (registerRouteLocked platform options) s' (.ok token') →
    token' = token

lemma routeMatch_nonempty {pathname : String} {suffix : Option String}
    (h : routeMatch pathname = some (routeId, suffix)) : routeId ≠ "" := by
  obtain ⟨text, -, hid⟩ := Option.bind_eq_some_iff.mp h
  dsimp only at hid
  split at hid
  · cases hid
  next hnonempty =>
  obtain ⟨rfl, -⟩ := Prod.mk.inj (Option.some.inj hid)
  intro hempty; exact hnonempty (.inl (String.ofList_injective hempty))

/-- What the next process knows of a route. -/
lemma respawned_orphan {controlToken bootstrap orphanedAt : String} {cidrs : List String}
    {data : RoutePersistedMeta} (hid : routeId ≠ "") (hother : bootstrap ≠ routeId)
    (hdata : s.recorded routeId = some data) :
    (respawned platform s controlToken cidrs bootstrap orphanedAt).orphanedRoutes.lookup routeId =
      some ⟨data.providerType, data.generation⟩ := by
  have hkept : respawnedRoutes (extractPersistedRoutes s.stateFile) bootstrap =
      (extractPersistedRoutes s.stateFile).filter fun entry => decide (entry.1 ≠ bootstrap) := by
    refine filter_congr fun entry hentry => ?_
    rw [mem_extractPersistedRoutes hentry, Bool.and_true]
  have hparsed : (respawned platform s controlToken cidrs bootstrap orphanedAt).orphanedRoutes =
      (computeRespawnState (extractPersistedRoutes s.stateFile) bootstrap
        orphanedAt).orphanedRoutes.filter fun entry => decide (entry.1 ≠ "") := by
    refine filter_congr fun entry hentry => ?_
    obtain ⟨before, hbefore, rfl⟩ := mem_map.mp hentry
    have hvalid : isGeneration before.2.generation :=
      mem_extractPersistedRoutes (mem_of_mem_filter hbefore)
    rw [hvalid, Bool.and_true]
  have hmap := lookup_map_keyed
    (fun _ (data : RoutePersistedMeta) => OrphanedRouteMeta.mk data.providerType data.generation)
    (respawnedRoutes (extractPersistedRoutes s.stateFile) bootstrap) routeId
  have hfilter := lookup_filter_key (fun key => decide (key ≠ bootstrap))
    (extractPersistedRoutes s.stateFile) routeId
  have hfound : (extractPersistedRoutes s.stateFile).lookup routeId = some data := hdata
  rw [hparsed, lookup_filter_key (fun key => decide (key ≠ ""))]
  unfold computeRespawnState
  rw [hmap, hkept, hfilter, hfound]; simp [hid, hother.symm]

lemma spares_nil {q : Call} {x : q.Answer} : Spares [] s q x := by
  have hrecord : OnRecord [] s := fun _ _ h => by cases h
  cases q
  case removeStateFile => exact fun _ => rfl
  case request => exact fun _ => hrecord
  case writeStateFile => exact fun _ => hrecord
  all_goals exact trivial

lemma Ends.spares_nil {α : Type} {t : Program α} {r : Except String α}
    (h : Ends (PinCan platform) s t s' r) : Ends (AllowedCan platform Spares []) s t s' r :=
  h.mono fun _ _ _ _ hcan => ⟨hcan, HttpsPin.spares_nil⟩

lemma registerRouteLocked_again {options : Registration} {controlToken generation : String}
    (htoken : s.tokenFile = some controlToken)
    (hgeneration : s.recordedGeneration options.routeId = some generation)
    (hends : Ends (PinCan platform) s (registerRouteLocked platform options) s' (.ok token)) :
    token = deriveRouteToken platform controlToken options.routeId generation := by
  have hempty : Held platform [] s := .of_empty fun _ => rfl
  have hregistered : Registered platform s s' options.routeId token :=
    (registerRouteLocked_registers hempty).ends (Ends.spares_nil hends)
  obtain ⟨controlToken', generation', htoken', hgeneration', hderived⟩ := hregistered.derived
  rw [hderived, Option.some.inj (htoken'.symm.trans (hregistered.token _ htoken)),
    Option.some.inj (hgeneration'.symm.trans (hregistered.own _ hgeneration))]

/-- Where the record is removed only while no route is registered, and where no registration
fails while a registered route is off the record, every registered route can be recovered. -/
theorem registeredRoute_recoverable (h : Maintains platform Spares s registered)
    (hroute : registered.lookup routeId = some token) :
    Recoverable platform s routeId token := by
  obtain ⟨controlToken, generation, htoken, hgeneration, hderived⟩ := h.held routeId token hroute
  obtain ⟨data, hdata, rfl⟩ := Option.map_eq_some_iff.mp hgeneration
  refine ⟨⟨data, controlToken, hdata, htoken, hderived, ?_⟩, ?_⟩
  · intro sourceCidrs bootstrap orphanedAt req hother hrequests
    obtain ⟨pathname, search, suffix, hurl, hmatch⟩ := hrequests.path
    have horphan : (respawned platform s controlToken sourceCidrs bootstrap
        orphanedAt).orphanedRoutes.lookup routeId = some ⟨data.providerType, data.generation⟩ :=
      respawned_orphan (routeMatch_nonempty hmatch) hother hdata
    have hnonempty : data.generation ≠ "" := by
      intro hempty
      have hvalid := extractPersistedRoutes_generation hdata
      rw [hempty] at hvalid
      revert hvalid; decide
    have hauth : (respawned platform s controlToken sourceCidrs bootstrap
        orphanedAt).authenticated platform routeId data.providerType data.generation req =
        true := by
      rw [hderived] at hrequests
      exact Bool.and_eq_true_iff.mpr ⟨decide_eq_true hnonempty, hrequests.token⟩
    exact congrArg Prod.snd
      (handle_recovery hurl hrequests.method hmatch hrequests.source rfl horphan hauth)
  · intro options s' token' hid hends
    subst hid
    rw [registerRouteLocked_again htoken hgeneration hends, hderived]

end Runs

/-- The process of a route that was registered is gone. -/
def crashedHost : PinHost := { issuedHost with adapter := none }

theorem registeredRoute_recoverable_crashed :
    Recoverable plainPlatform crashedHost modelsRoute.routeId (modelsToken '0') :=
  registeredRoute_recoverable
    (.disturbed (.registered modelsRoute .start (Ends.spares_nil issuedHost_ends)) .crash)
    (by decide +kernel)

def otherRouteId : String := String.ofList (List.replicate 64 'b')

lemma otherRouteId_hex : isLowerHexOf 64 otherRouteId := by decide

def otherRoute : Registration where
  routeId := otherRouteId
  endpointUrl := "https://other.example"
  pinnedAddresses := ["192.0.2.2"]
  providerType := .anthropic
  credentialValue := "sk-2"
  allowedSourceCidrs := ["172.18.0.0/16"]
  routeId_hex := otherRouteId_hex

/-- What is left where the process for another route does not come up. -/
def lostHost : PinHost where
  tokenFile := some "5d41402abc4b2a76"
  stateFile := none
  pidFile := none
  adapter := none
  starting := []
  generations := [generationOf '1', generationOf '0']

/-- A process that does not come up takes the record with it: a registered route is lost. -/
theorem registeredRoute_lost :
    ∃ s, Maintains plainPlatform (fun _ _ _ _ => True) s
        [(modelsRoute.routeId, modelsToken '0')] ∧
      s.recorded modelsRoute.routeId = none := by
  have hlost : (outcome plainPlatform false (registerRouteLocked plainPlatform otherRoute)
      crashedHost).1 = lostHost := by decide +kernel
  have hends : Ends (PinCan plainPlatform) crashedHost
      (registerRouteLocked plainPlatform otherRoute) lostHost (.error notHealthy) :=
    outcome_ends (by decide +kernel) hlost rfl
  refine ⟨lostHost, .unregistered otherRoute (.disturbed (.registered modelsRoute .start
    (issuedHost_ends.mono fun _ _ _ _ hcan => ⟨hcan, trivial⟩)) .crash)
    (hends.mono fun _ _ _ _ hcan => ⟨hcan, trivial⟩), rfl⟩

end NemoClaw.HttpsPin
