import NemoClaw.Inference.HttpsPinLifecycle

/- The host of the HTTPS pin adapter.

One process has the port; others may have been started that do not have it yet. A process
may crash at any time, one that was started may take the port when it is free, and anybody
may send requests in between. Only a route that is put over the control plane, with the
control token, comes from the commands. A request that gets no answer was handled or is
lost, and a file that cannot be written stays as it was.

What is provided:
  1. `PinHost`, `Disturbs`, `PinCan` — what a call of a command can meet.
  2. `Same` — what the calls that write no file leave as it is.
  3. `Faithful` — what is assumed of the platform.
  4. `execute` — a host that does what it is asked, where no request comes from elsewhere.
-/
namespace NemoClaw.HttpsPin

open Js CallTree List

structure PinHost where
  tokenFile : Option String
  stateFile : Option AdapterState
  pidFile : Option ℕ
  /-- the process that has the port -/
  adapter : Option Adapter
  /-- processes that were started, and may take it -/
  starting : List Adapter
  /-- the generations that were drawn -/
  generations : List String
  deriving DecidableEq

def PinHost.recorded (s : PinHost) (routeId : String) : Option RoutePersistedMeta :=
  (extractPersistedRoutes s.stateFile).lookup routeId

section Can

variable (platform : Platform)

/-- The request comes from the loopback address, with the control token. -/
def Controls (adapter : Adapter) (req : Request) : Prop :=
  isLoopbackRemoteAddress req.remoteAddress ∧
    authMatches req.authorization adapter.controlToken

/-- What happens besides the commands. -/
inductive Disturbs : PinHost → PinHost → Prop
  | crash {s : PinHost} : Disturbs s { s with adapter := none }
  | stop {s : PinHost} {starting : List Adapter} :
    starting ⊆ s.starting → Disturbs s { s with starting }
  | listen {s : PinHost} {adapter : Adapter} :
    adapter ∈ s.starting → s.adapter = none → Disturbs s { s with adapter := some adapter }
  | request {s : PinHost} {adapter adapter' : Adapter} {req : Request} {response : Response} :
    s.adapter = some adapter → (Controls adapter req → req.method ≠ "PUT") →
    adapter.handle platform req = (adapter', response) →
    Disturbs s { s with adapter := some adapter' }

abbrev Interferes : PinHost → PinHost → Prop := Relation.ReflTransGen (Disturbs platform)

/-- The adapter that has the port answers. -/
def Handles (s : PinHost) (req : Request) (s' : PinHost) (response : Response) : Prop :=
  ∃ adapter adapter', s.adapter = some adapter ∧
    adapter.handle platform req = (adapter', response) ∧ s' = { s with adapter := some adapter' }

def Does (s : PinHost) : (q : Call) → PinHost → q.Answer → Prop
  | .readTokenFile, s', token => s' = s ∧ token = s.tokenFile
  | .writeTokenFile token, s', answer =>
    Split (fun s' (_ : Unit) => s' = { s with tokenFile := some token })
      (fun s' (_ : String) => s' = s) s' answer
  | .readStateFile, s', state => s' = s ∧ state = s.stateFile
  | .writeStateFile state, s', answer =>
    Split (fun s' (_ : Unit) => s' = { s with stateFile := some state })
      (fun s' (_ : String) => s' = s) s' answer
  | .removeStateFile, s', _ => s' = s ∨ s' = { s with stateFile := none }
  | .randomGeneration, s', (generation : String) =>
    isGeneration generation ∧ generation ∉ s.generations ∧
      s' = { s with generations := generation :: s.generations }
  | .randomToken, s', _ => s' = s
  | .probeAdapterControlHealth token cidrs, s', (healthy : Bool) =>
    s' = s ∧ (healthy → ∃ adapter, s.adapter = some adapter ∧
      adapter.controlToken = token ∧ adapter.identity = platform.currentIdentity ∧
      adapter.allowedSourceCidrs.Perm cidrs)
  | .killStaleAdapter, s', _ => ∃ adapter starting,
    (adapter = s.adapter ∨ adapter = none) ∧ starting ⊆ s.starting ∧
      s' = { s with pidFile := none, adapter, starting }
  | .spawnAdapter token cidrs orphanedRoutes, s', _ =>
    s' = { s with starting := ⟨token, cidrs, platform.currentIdentity, [],
      parseOrphanedRoutes orphanedRoutes⟩ :: s.starting }
  | .persistLocalAdapterPid _, s', _ => ∃ pidFile, s' = { s with pidFile }
  | .waitForAdapterHealth token cidrs, s', (healthy : Bool) =>
    s' = s ∧ (healthy → ∃ adapter, s.adapter = some adapter ∧
      adapter.controlToken = token ∧ adapter.identity = platform.currentIdentity ∧
      adapter.allowedSourceCidrs.Perm cidrs)
  | .request req, s', answer =>
    Split (fun s' (response : Response) => Handles platform s req s' response)
      (fun s' (_ : String) => s' = s ∨ ∃ response, Handles platform s req s' response) s' answer
  | .loadPersistedPid, s', pid => s' = s ∧ pid = s.pidFile
  | .isAdapterProcess _, s', _ => s' = s
  | .now, s', _ => s' = s

def PinCan (s : PinHost) (q : Call) (s' : PinHost) (x : q.Answer) : Prop :=
  ∃ s1, Interferes platform s s1 ∧ Does platform s1 q s' x

structure Faithful : Prop where
  hmac : ∀ key data key' data', platform.hmac key data = platform.hmac key' data' →
    key = key' ∧ data = data'
  controlUrl : ∀ routeId, isLowerHexOf 64 routeId →
    platform.requestUrl (controlPath routeId) = some (controlPath routeId, "")

end Can

section Same

variable {platform : Platform} {s s' s'' : PinHost}

/-- The files are as before, but for the one with the process id. -/
structure Same (s s' : PinHost) : Prop where
  tokenFile : s'.tokenFile = s.tokenFile
  stateFile : s'.stateFile = s.stateFile
  generations : s.generations ⊆ s'.generations

lemma Same.refl : Same s s := ⟨rfl, rfl, fun _ h => h⟩

lemma Same.trans (h : Same s s') (h' : Same s' s'') : Same s s'' :=
  ⟨h'.tokenFile.trans h.tokenFile, h'.stateFile.trans h.stateFile,
    fun _ hg => h'.generations (h.generations hg)⟩

lemma Same.recorded (h : Same s s') (routeId : String) :
    s'.recorded routeId = s.recorded routeId := by
  unfold PinHost.recorded
  rw [h.stateFile]

lemma Disturbs.same (h : Disturbs platform s s') : Same s s' := by
  cases h <;> exact ⟨rfl, rfl, fun _ hg => hg⟩

lemma Interferes.same (h : Interferes platform s s') : Same s s' := by
  induction h with
  | refl => exact .refl
  | tail _ hstep ih => exact ih.trans hstep.same

def Call.Sparing : Call → Prop
  | writeTokenFile _ | writeStateFile _ | removeStateFile => False
  | _ => True

lemma Does.same {q : Call} {x : q.Answer} (hq : q.Sparing) (h : Does platform s q s' x) :
    Same s s' := by
  cases q
  case writeTokenFile => exact hq.elim
  case writeStateFile => exact hq.elim
  case removeStateFile => exact hq.elim
  case randomGeneration =>
    obtain ⟨-, -, rfl⟩ := h; exact ⟨rfl, rfl, subset_cons_self _ _⟩
  case killStaleAdapter =>
    obtain ⟨adapter, starting, -, -, rfl⟩ := h; exact ⟨rfl, rfl, fun _ h => h⟩
  case spawnAdapter =>
    have heq : s' = _ := h
    subst heq; exact ⟨rfl, rfl, fun _ h => h⟩
  case persistLocalAdapterPid =>
    obtain ⟨pidFile, rfl⟩ := h; exact ⟨rfl, rfl, fun _ h => h⟩
  case request req =>
    cases x with
    | ok response =>
      obtain ⟨adapter, adapter', -, -, rfl⟩ := h; exact ⟨rfl, rfl, fun _ h => h⟩
    | error e =>
      cases h with
      | inl heq => exact heq ▸ .refl
      | inr hhandles =>
        obtain ⟨response, adapter, adapter', -, -, rfl⟩ := hhandles
        exact ⟨rfl, rfl, fun _ h => h⟩
  all_goals first
    | exact h.1 ▸ Same.refl
    | exact h ▸ Same.refl

lemma PinCan.same {q : Call} {x : q.Answer} (hq : q.Sparing) (h : PinCan platform s q s' x) :
    Same s s' := by
  obtain ⟨s1, hother, hdoes⟩ := h; exact hother.same.trans (hdoes.same hq)

structure Adapter.Continues (adapter adapter' : Adapter) : Prop where
  controlToken : adapter'.controlToken = adapter.controlToken
  routes : ∀ id route, adapter'.routes.lookup id = some route →
    adapter.routes.lookup id = some route

lemma Adapter.Continues.refl {adapter : Adapter} : adapter.Continues adapter :=
  ⟨rfl, fun _ _ h => h⟩

lemma Adapter.Continues.trans {adapter adapter' adapter'' : Adapter}
    (h : adapter.Continues adapter') (h' : adapter'.Continues adapter'') :
    adapter.Continues adapter'' :=
  ⟨h'.controlToken.trans h.controlToken,
    fun id route hroute => h.routes id route (h'.routes id route hroute)⟩

lemma Adapter.Continues.empty {adapter adapter' : Adapter} (h : adapter.Continues adapter')
    (hempty : adapter.routes = []) : adapter'.routes = [] := by
  rw [eq_nil_iff_forall_not_mem]
  intro entry hentry
  obtain ⟨route, hroute⟩ := lookup_of_mem_keys (mem_map_of_mem (f := Prod.fst) hentry)
  have hbefore := h.routes _ _ hroute
  rw [hempty] at hbefore; cases hbefore

lemma Adapter.continues_deleteRoute (adapter : Adapter) (routeId : String) :
    adapter.Continues (adapter.deleteRoute routeId) := by
  refine ⟨rfl, fun id route hroute => ?_⟩
  have hthere : (deleteKey adapter.routes routeId).lookup id = some route := hroute
  rw [lookup_deleteKey] at hthere
  split at hthere
  · cases hthere
  · exact hthere

structure Settles (s s' : PinHost) : Prop where
  live : ∀ adapter, s'.adapter = some adapter →
    (∃ before, s.adapter = some before ∧ before.Continues adapter) ∨
      (∃ before ∈ s.starting, before.Continues adapter) ∨ adapter.routes = []
  starting : ∀ adapter ∈ s'.starting, adapter ∈ s.starting ∨ adapter.routes = []

lemma Settles.of_adapter (hadapter : s'.adapter = s.adapter)
    (hstarting : ∀ adapter ∈ s'.starting, adapter ∈ s.starting ∨ adapter.routes = []) :
    Settles s s' where
  live := fun adapter hlive => .inl ⟨adapter, hadapter ▸ hlive, .refl⟩
  starting := hstarting

lemma Settles.refl : Settles s s := .of_adapter rfl fun _ h => .inl h

lemma Settles.trans (h : Settles s s') (h' : Settles s' s'') : Settles s s'' where
  live := by
    intro adapter hadapter
    cases h'.live adapter hadapter with
    | inl hbefore =>
      obtain ⟨before, hbefore, hcontinues⟩ := hbefore
      cases h.live before hbefore with
      | inl hfirst =>
        obtain ⟨first, hfirst, hcontinued⟩ := hfirst
        exact .inl ⟨first, hfirst, hcontinued.trans hcontinues⟩
      | inr hnew =>
        cases hnew with
        | inl hstarted =>
          obtain ⟨first, hfirst, hcontinued⟩ := hstarted
          exact .inr (.inl ⟨first, hfirst, hcontinued.trans hcontinues⟩)
        | inr hempty => exact .inr (.inr (hcontinues.empty hempty))
    | inr hnew =>
      cases hnew with
      | inl hstarted =>
        obtain ⟨before, hbefore, hcontinues⟩ := hstarted
        cases h.starting before hbefore with
        | inl hfirst => exact .inr (.inl ⟨before, hfirst, hcontinues⟩)
        | inr hempty => exact .inr (.inr (hcontinues.empty hempty))
      | inr hempty => exact .inr (.inr hempty)
  starting := by
    intro adapter hadapter
    cases h'.starting adapter hadapter with
    | inl hbefore => exact h.starting adapter hbefore
    | inr hempty => exact .inr hempty

lemma Disturbs.settles (h : Disturbs platform s s') : Settles s s' := by
  cases h with
  | crash => exact ⟨nofun, fun _ h => .inl h⟩
  | stop hsub => exact .of_adapter rfl fun _ h => .inl (hsub h)
  | listen hmem _ =>
    refine ⟨fun other hother => ?_, fun _ h => .inl h⟩
    cases hother; exact .inr (.inl ⟨_, hmem, .refl⟩)
  | request hadapter hcontrols hhandle =>
    refine ⟨fun other hother => ?_, fun _ h => .inl h⟩
    cases hother
    refine .inl ⟨_, hadapter, ?_⟩
    cases handle_changes hhandle with
    | inl hsame => exact hsame ▸ .refl
    | inr hchanged =>
    -- it has the control token, so it is no PUT
    cases handle_unput (hcontrols hchanged) hhandle with
    | inl hsame => exact hsame ▸ .refl
    | inr hdelete =>
      obtain ⟨routeId, hdelete⟩ := hdelete
      exact hdelete ▸ Adapter.continues_deleteRoute _ routeId

lemma Interferes.settles (h : Interferes platform s s') : Settles s s' := by
  induction h with
  | refl => exact .refl
  | tail _ hstep ih => exact ih.trans hstep.settles

def Call.Unsent : Call → Prop
  | request _ => False
  | _ => True

lemma Does.settles {q : Call} {x : q.Answer} (hq : q.Unsent) (h : Does platform s q s' x) :
    Settles s s' := by
  cases q
  case request => exact hq.elim
  case writeTokenFile =>
    cases x with
    | ok u => have heq : s' = _ := h; exact heq ▸ .of_adapter rfl fun _ h => .inl h
    | error e => have heq : s' = s := h; exact heq ▸ .refl
  case writeStateFile =>
    cases x with
    | ok u => have heq : s' = _ := h; exact heq ▸ .of_adapter rfl fun _ h => .inl h
    | error e => have heq : s' = s := h; exact heq ▸ .refl
  case removeStateFile =>
    cases h with
    | inl heq => exact heq ▸ .refl
    | inr heq => exact heq ▸ .of_adapter rfl fun _ h => .inl h
  case randomGeneration =>
    obtain ⟨-, -, rfl⟩ := h; exact .of_adapter rfl fun _ h => .inl h
  case killStaleAdapter =>
    obtain ⟨kept, starting, hkept, hsub, rfl⟩ := h
    refine ⟨fun adapter hadapter => ?_, fun _ h => .inl (hsub h)⟩
    have hthere : kept = some adapter := hadapter
    cases hkept with
    | inl hsame => exact .inl ⟨adapter, hsame.symm.trans hthere, .refl⟩
    | inr hnone => exact absurd (hnone.symm.trans hthere) (by simp)
  case spawnAdapter =>
    have heq : s' = _ := h
    subst heq
    refine .of_adapter rfl fun adapter hadapter => ?_
    cases mem_cons.mp hadapter with
    | inl hnew => exact .inr (hnew ▸ rfl)
    | inr hold => exact .inl hold
  case persistLocalAdapterPid =>
    obtain ⟨pidFile, rfl⟩ := h; exact .of_adapter rfl fun _ h => .inl h
  all_goals first
    | exact h.1 ▸ Settles.refl
    | exact h ▸ Settles.refl

lemma PinCan.settles {q : Call} {x : q.Answer} (hq : q.Unsent)
    (h : PinCan platform s q s' x) : Settles s s' := by
  obtain ⟨s1, hother, hdoes⟩ := h; exact hother.settles.trans (hdoes.settles hq)

end Same

namespace PinHost

variable (platform : Platform) (s : PinHost)

/-- The process that has the port is the one that is asked for. -/
def healthy (token : String) (cidrs : List String) : Bool :=
  s.adapter.any fun adapter => adapter.controlToken = token &&
    adapter.identity = platform.currentIdentity && adapter.allowedSourceCidrs = cidrs

/-- The process that was started last takes the port, if it comes up. -/
def listens (comesUp : Bool) : PinHost :=
  match comesUp, s.adapter, s.starting with
  | true, none, adapter :: _ => { s with adapter := some adapter }
  | _, _, _ => s

/-- The adapter, where it has the port, answers; otherwise the connection is refused. -/
def answers (req : Request) : PinHost × Except String Response :=
  match s.adapter with
  | none => (s, .error "ECONNREFUSED")
  | some adapter =>
    ({ s with adapter := some (adapter.handle platform req).1 },
      .ok (adapter.handle platform req).2)

def nextGeneration : String :=
  String.ofList (List.replicate 32 (Nat.digitChar s.generations.length))

def Draws : Call → Prop
  | .randomGeneration =>
    isGeneration s.nextGeneration ∧ s.nextGeneration ∉ s.generations
  | _ => True

instance (q : Call) : Decidable (s.Draws q) := by
  unfold Draws
  split
  · infer_instance
  · infer_instance

def execute (platform : Platform) (comesUp : Bool) (s : PinHost) : (q : Call) → PinHost × q.Answer
  | .readTokenFile => (s, s.tokenFile)
  | .writeTokenFile token => ({ s with tokenFile := some token }, .ok ())
  | .readStateFile => (s, s.stateFile)
  | .writeStateFile state => ({ s with stateFile := some state }, .ok ())
  | .removeStateFile => ({ s with stateFile := none }, ())
  | .randomGeneration =>
    ({ s with generations := s.nextGeneration :: s.generations }, s.nextGeneration)
  | .randomToken => (s, "5d41402abc4b2a76")
  | .probeAdapterControlHealth token cidrs => (s, s.healthy platform token cidrs)
  | .killStaleAdapter => ({ s with pidFile := none, adapter := none, starting := [] }, .ok ())
  | .spawnAdapter token cidrs orphanedRoutes =>
    ({ s with starting := ⟨token, cidrs, platform.currentIdentity, [],
        parseOrphanedRoutes orphanedRoutes⟩ :: s.starting }, some 4711)
  | .persistLocalAdapterPid pid => ({ s with pidFile := pid }, .ok ())
  | .waitForAdapterHealth token cidrs =>
    (s.listens comesUp, (s.listens comesUp).healthy platform token cidrs)
  | .request req => s.answers platform req
  | .loadPersistedPid => (s, s.pidFile)
  | .isAdapterProcess pid => (s, pid.isSome && s.adapter.isSome)
  | .now => (s, "1970-01-01T00:00:00.000Z")

variable {platform} {s}

lemma listens_interferes (comesUp : Bool) :
    Interferes platform s (s.listens comesUp) := by
  unfold listens
  split
  · next adapter _ hadapter hstarting =>
    have hmem : adapter ∈ s.starting := by
      rw [hstarting]; exact mem_cons_self
    exact .single (.listen hmem hadapter)
  · exact .refl

lemma healthy_live {token : String} {cidrs : List String}
    (h : s.healthy platform token cidrs) : ∃ adapter, s.adapter = some adapter ∧
      adapter.controlToken = token ∧ adapter.identity = platform.currentIdentity ∧
      adapter.allowedSourceCidrs.Perm cidrs := by
  unfold healthy at h
  cases hadapter : s.adapter with
  | none => rw [hadapter] at h; cases h
  | some adapter =>
    simp only [hadapter, Option.any_some, Bool.and_eq_true, decide_eq_true_eq] at h
    exact ⟨adapter, rfl, h.1.1, h.1.2, h.2 ▸ .refl _⟩

lemma execute_can {comesUp : Bool} (s : PinHost) (q : Call) (hdraws : s.Draws q) :
    PinCan platform s q (s.execute platform comesUp q).1 (s.execute platform comesUp q).2 := by
  cases q
  case waitForAdapterHealth token cidrs =>
    exact ⟨s.listens comesUp, listens_interferes comesUp, rfl, healthy_live⟩
  case probeAdapterControlHealth token cidrs => exact ⟨s, .refl, rfl, healthy_live⟩
  case randomGeneration =>
    obtain ⟨hvalid, hnew⟩ := hdraws; exact ⟨s, .refl, hvalid, hnew, rfl⟩
  case removeStateFile => exact ⟨s, .refl, .inr rfl⟩
  case killStaleAdapter => exact ⟨s, .refl, none, [], .inr rfl, nil_subset _, rfl⟩
  case persistLocalAdapterPid pid => exact ⟨s, .refl, pid, rfl⟩
  case request req =>
    refine ⟨s, .refl, ?_⟩
    cases hadapter : s.adapter with
    | none => simp only [execute, answers, hadapter]; exact .inl rfl
    | some adapter =>
      simp only [execute, answers, hadapter]; exact ⟨adapter, _, hadapter, rfl, rfl⟩
  case readTokenFile => exact ⟨s, .refl, rfl, rfl⟩
  case readStateFile => exact ⟨s, .refl, rfl, rfl⟩
  case loadPersistedPid => exact ⟨s, .refl, rfl, rfl⟩
  all_goals exact ⟨s, .refl, rfl⟩

end PinHost

section Execute

variable {platform : Platform} {comesUp : Bool} {s : PinHost}

def outcome {α : Type} (platform : Platform) (comesUp : Bool) (command : Program α)
    (s : PinHost) : PinHost × Except String α :=
  command.finish (PinHost.execute platform comesUp) s

lemma outcome_ends {α : Type} {command : Program α} {s' : PinHost} {r : Except String α}
    (hdraws : command.Meets (PinHost.execute platform comesUp) PinHost.Draws s)
    (hhost : (outcome platform comesUp command s).1 = s')
    (hresult : (outcome platform comesUp command s).2 = r) :
    Ends (PinCan platform) s command s' r := by
  rw [← hhost, ← hresult]; exact .of_finish PinHost.execute_can hdraws

end Execute

def plainPlatform : Platform where
  hmac := fun key data =>
    String.ofList (key.toList.flatMap (fun c => ['k', c]) ++ 'd' :: data.toList)
  requestUrl := fun url => some (url, "")
  endpointPathname := fun _ => some "/"
  canonicalPathname := some
  inSubnets := fun _ _ => false
  currentIdentity := ⟨"2", "0"⟩

lemma plainPlatform_faithful : Faithful plainPlatform where
  hmac := by
    intro key data key' data' h
    have hchars := String.ofList_injective h
    have hsplit : ∀ text text' : List Char,
        text.flatMap (fun c => ['k', c]) ++ 'd' :: data.toList =
          text'.flatMap (fun c => ['k', c]) ++ 'd' :: data'.toList →
        text = text' ∧ data.toList = data'.toList := by
      intro text
      induction text with
      | nil =>
        intro text' heq
        cases text' with
        | nil => simpa using heq
        | cons c rest => simp at heq
      | cons c rest ih =>
        intro text' heq
        cases text' with
        | nil => simp at heq
        | cons c' rest' =>
        simp only [flatMap_cons, cons_append, nil_append, List.cons.injEq,
          true_and] at heq
        obtain ⟨rfl, hrest⟩ := heq
        obtain ⟨rfl, hdata⟩ := ih rest' hrest; exact ⟨rfl, hdata⟩
    obtain ⟨hkey, hdata⟩ := hsplit _ _ hchars
    exact ⟨String.toList_injective hkey, String.toList_injective hdata⟩
  controlUrl := fun _ _ => rfl

end NemoClaw.HttpsPin
