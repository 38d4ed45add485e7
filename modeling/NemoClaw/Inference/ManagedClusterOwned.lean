import NemoClaw.Inference.ManagedClusterLifecycle

/- The lifecycle of a managed cluster touches only its own containers.

What is proved, for every plan and whatever the executor answers or fails with:
  1. `managedCluster_owned` — nodes are staged and containers started only after an
     inspection of all nodes that is clear, each role at most once and the ranks in
     descending order; a container is removed only if its start returned its id, and
     directly after an inspection of the node that shows it as planned.
  2. A new cluster is reported only if the last inspection shows exactly the created
     containers, and a failed start without rollback errors only if it is clear.
  3. A cleanup with a receipt removes only containers of the receipt.
-/
namespace NemoClaw.ManagedCluster

open CallTree CallTree.Tree Js List

abbrev History := List (Event Call Answer)

def inspection (rolePlan : RolePlan) (snapshot : NodeSnapshot) : Event Call Answer :=
  ⟨.inspectNode rolePlan, (.ok snapshot : Except String NodeSnapshot)⟩

def Inspects (plan : Plan) (part : History) (snapshots : List RoleSnapshot) : Prop :=
  ∃ nodes : List NodeSnapshot, nodes.length = plan.roles.length ∧
    part = List.zipWith inspection plan.roles nodes ∧
    snapshots = roleSnapshots plan.roles nodes

def InspectsClear (plan : Plan) (apiKeyFingerprint : String) (part : History) : Prop :=
  ∃ snapshots, Inspects plan part snapshots ∧
    classifyManagedClusterExistingState plan apiKeyFingerprint snapshots = .clear

def isStage (e : Event Call Answer) : Bool :=
  match e.call with
  | .stageNode _ _ => true
  | _ => false

def startedRole (e : Event Call Answer) : Option RolePlan :=
  match e.call with
  | .startContainer request => some request.rolePlan
  | _ => none

def startedRoles (h : History) : List RolePlan := h.filterMap startedRole

/-- The nodes were clear, and none has been staged since. -/
def Cleared (plan : Plan) (apiKeyFingerprint : String) (h : History) : Prop :=
  ∃ pre part mid, h = pre ++ part ++ mid ∧ InspectsClear plan apiKeyFingerprint part ∧
    ∀ e ∈ mid, isStage e = false

/-- The container was started with its labels, and its id returned. -/
def CreatedBy (h : History) (created : CreatedContainer) : Prop :=
  ∃ request result, Event.mk (A := Answer) (.startContainer request)
      (.ok result : Except String ContainerStartResult) ∈ h ∧
    request.rolePlan = created.rolePlan ∧ request.labels = created.expectedLabels ∧
    result.containerId = some created.containerId

/-- The node has the container, with the planned name and image and the labels it was
started with. -/
def ShowsCreated (snapshot : NodeSnapshot) (created : CreatedContainer) : Prop :=
  ∃ container ∈ snapshot.containers, container.id = created.containerId ∧
    container.name = created.rolePlan.containerName ∧
    container.image = created.rolePlan.image ∧
    labelsMatch container.labels created.expectedLabels

/-- What a call of the lifecycle follows upon. -/
def Allowed (plan : Plan) (apiKeyFingerprint : String) (before : History) :
    Event Call Answer → Prop
  | ⟨.stageNode rolePlan _, _⟩ => rolePlan ∈ plan.roles ∧ ∃ pre part mid,
      before = pre ++ part ++ mid ∧ InspectsClear plan apiKeyFingerprint part
  | ⟨.startContainer request, _⟩ => Cleared plan apiKeyFingerprint before ∧
      startedRoles before ++ [request.rolePlan] <+: byDescendingRank plan.roles ∧
      ∃ transactionId,
        request.labels = labelsForStart request.rolePlan apiKeyFingerprint transactionId
  | ⟨.removeContainer rolePlan containerId, _⟩ => ∃ pre snapshot created,
      before = pre ++ [inspection rolePlan snapshot] ∧ created.rolePlan = rolePlan ∧
      created.containerId = containerId ∧ CreatedBy pre created ∧ ShowsCreated snapshot created
  | _ => True

structure ShowsExactly (apiKeyFingerprint transactionId : String)
    (snapshots : List RoleSnapshot) (created : List CreatedContainer) : Prop where
  shown : ∀ c ∈ created, ∃ s ∈ snapshots, s.nodeId = c.rolePlan.nodeId ∧
    ∃ container ∈ s.snapshot.containers, container.id = c.containerId ∧
      container.name = c.rolePlan.containerName ∧ container.image = c.rolePlan.image ∧
      labelsMatch container.labels
        (labelsForStart c.rolePlan apiKeyFingerprint transactionId) ∧
      transactionOf container = transactionId ∧
      container.running ∧ container.healthy
  alone : ∀ c ∈ created, ∀ s ∈ snapshots, s.nodeId = c.rolePlan.nodeId →
    ∀ container ∈ s.snapshot.containers, container.name = c.rolePlan.containerName →
      container.id = c.containerId
  related : ∀ s ∈ snapshots, ∀ container ∈ s.snapshot.containers,
    isRelatedManagedVllmContainer container →
      ∃ c ∈ created, container.id = c.containerId

def EndsWith (h pre part : History) : Prop :=
  ∃ rest, h = pre ++ part ++ rest ∧ ∀ e ∈ rest, e.call = .unlockLifecycle

def Settled (plan : Plan) (apiKeyFingerprint : String) (h : History) : StartResult → Prop
  | .started false _ containers _ => ∃ pre part snapshots created transactionId,
      EndsWith h pre part ∧ Inspects plan part snapshots ∧
      created.map (·.rolePlan) = byDescendingRank plan.roles ∧
      (∀ c ∈ created, CreatedBy pre c) ∧
      containers = created.map (fun c => ⟨c.rolePlan.nodeId, c.containerId⟩) ∧
      ShowsExactly apiKeyFingerprint transactionId snapshots created
  | .failed code _ rollbackErrors => code = .startFailed ∨ code = .healthFailed →
      rollbackErrors = [] → ∃ pre part, EndsWith h pre part ∧
        InspectsClear plan apiKeyFingerprint part
  | .started true _ _ _ => True

section Histories

variable {plan : Plan} {fp : String} {h h' : History}

lemma CreatedBy.mono {c : CreatedContainer} (hc : CreatedBy h c) (hpre : h <+: h') :
    CreatedBy h' c := by
  obtain ⟨request, result, hmem, hrest⟩ := hc
  exact ⟨request, result, hpre.subset hmem, hrest⟩

lemma Cleared.append {new : History} (hc : Cleared plan fp h)
    (hnew : ∀ e ∈ new, isStage e = false) : Cleared plan fp (h ++ new) := by
  obtain ⟨pre, part, mid, hsplit, hclear, hmid⟩ := hc
  refine ⟨pre, part, mid ++ new, by rw [hsplit, append_assoc], hclear, ?_⟩
  intro e he
  rcases mem_append.mp he with hin | hin
  · exact hmid e hin
  · exact hnew e hin

lemma EndsWith.here {pre part : History} : EndsWith (pre ++ part) pre part :=
  ⟨[], (append_nil _).symm, forall_mem_nil _⟩

lemma EndsWith.unlocked {pre part : History} (hends : EndsWith h pre part)
    (x : Answer .unlockLifecycle) : EndsWith (h ++ [⟨.unlockLifecycle, x⟩]) pre part := by
  obtain ⟨rest, rfl, hrest⟩ := hends
  refine ⟨rest ++ [⟨.unlockLifecycle, x⟩], append_assoc _ _ _, ?_⟩
  intro e he
  rcases mem_append.mp he with hin | hlast
  · exact hrest e hin
  · rw [mem_singleton.mp hlast]

lemma Settled.unlocked {result : StartResult} (hsettled : Settled plan fp h result)
    (x : Answer .unlockLifecycle) :
    Settled plan fp (h ++ [⟨.unlockLifecycle, x⟩]) result := by
  cases result with
  | started reused baseUrl containers fingerprint =>
    cases reused with
    | true => trivial
    | false =>
      obtain ⟨pre, part, snapshots, created, tx, hends, hrest⟩ := hsettled
      exact ⟨pre, part, snapshots, created, tx, hends.unlocked x, hrest⟩
  | failed code reason errors =>
    intro hcode herrors
    obtain ⟨pre, part, hends, hclear⟩ := hsettled hcode herrors
    exact ⟨pre, part, hends.unlocked x, hclear⟩

lemma startedRoles_append (new : History) :
    startedRoles (h ++ new) = startedRoles h ++ startedRoles new :=
  filterMap_append

lemma startedRoles_quiet {new : History} (hnew : ∀ e ∈ new, startedRole e = none) :
    startedRoles new = [] := filterMap_eq_nil_iff.mpr hnew

end Histories

section Inspection

variable {plan : Plan} {fp : String} {h : History}

/-- The calls that are allowed anywhere. -/
def Quiet : Call → Prop
  | .stageNode _ _ | .startContainer _ | .removeContainer _ _ => False
  | _ => True

lemma Quiet.allowed (h : History) (q : Call) (x : Answer q) (hq : Quiet q) :
    Allowed plan fp h ⟨q, x⟩ := by
  cases q with
  | stageNode _ _ => exact hq.elim
  | startContainer _ => exact hq.elim
  | removeContainer _ _ => exact hq.elim
  | _ => trivial

lemma Quiet.isStage {e : Event Call Answer} (hq : Quiet e.call) : isStage e = false := by
  obtain ⟨q, x⟩ := e
  cases q with
  | stageNode _ _ => exact hq.elim
  | _ => rfl

lemma Quiet.startedRole {e : Event Call Answer} (hq : Quiet e.call) :
    startedRole e = none := by
  obtain ⟨q, x⟩ := e
  cases q with
  | startContainer _ => exact hq.elim
  | _ => rfl

variable {allowed : History → Event Call Answer → Prop}
  (hallowed : ∀ h q x, Quiet q → allowed h ⟨q, x⟩)

include hallowed

lemma inspectEach_does (roles : List RolePlan) (horderly : Orderly allowed h) :
    Always recorded (Orderly allowed)
      (fun h' r => ∃ answers, r = .ok answers ∧ answers.length = roles.length ∧
        h' = h ++ List.zipWith (fun role x => ⟨.inspectNode role, x⟩) roles answers)
      (inspectEach roles) h := by
  induction roles generalizing h with
  | nil => exact .done horderly ⟨[], rfl, rfl, (append_nil h).symm⟩
  | cons role rest ih =>
    refine Always.ask_bind (q := Call.inspectNode role) horderly
      (fun x => hallowed _ _ x trivial) ?_
    intro x hx
    refine (ih hx).bind ?_ ?_
    · intro h' answers horderly' hpost
      obtain ⟨answers', heq, hlength, hh'⟩ := hpost
      cases heq
      refine .done horderly' ⟨x :: answers, rfl, ?_, ?_⟩
      · rw [length_cons, length_cons, hlength]
      · rw [hh', append_assoc]; rfl
    · intro h' e _ hpost
      obtain ⟨_, heq, -⟩ := hpost; cases heq

omit hallowed in
lemma allOk_some {α : Type} {answers : List (Except String α)} {values : List α}
    (h : allOk answers = some values) : answers = values.map .ok := by
  induction answers generalizing values with
  | nil => rw [← Option.some.inj h]; rfl
  | cons answer rest ih =>
    cases answer with
    | error e => cases h
    | ok a =>
      obtain ⟨rest', hrest, hvalues⟩ := Option.map_eq_some_iff.mp h
      rw [← hvalues, ih hrest]; rfl

/-- The inspection of all nodes: if it comes to snapshots, it stands at the end of the
history. -/
lemma inspectAll_does (horderly : Orderly allowed h) :
    Always recorded (Orderly allowed)
      (fun h' r => ∃ part snapshots, r = .ok snapshots ∧ h' = h ++ part ∧
        (∀ e ∈ part, Quiet e.call) ∧ ∀ s, snapshots = some s → Inspects plan part s)
      (inspectAll plan) h := by
  refine (inspectEach_does hallowed plan.roles horderly).bind ?_ ?_
  · intro h' answers horderly' hpost
    obtain ⟨answers', heq, hlength, hh'⟩ := hpost
    cases heq
    refine .done horderly' ⟨_, _, rfl, hh', ?_, ?_⟩
    · intro e he
      obtain ⟨i, hi, rfl⟩ := getElem_of_mem he
      rw [getElem_zipWith]; trivial
    · intro s hs
      obtain ⟨nodes, hnodes, rfl⟩ := Option.map_eq_some_iff.mp hs
      have hanswers := allOk_some hnodes
      subst hanswers
      rw [length_map] at hlength
      refine ⟨nodes, hlength, ?_, rfl⟩
      rw [zipWith_map_right]; rfl
  · intro h' e _ hpost
    obtain ⟨_, heq, -⟩ := hpost; cases heq

end Inspection

section Rollback

variable {plan : Plan} {fp : String} {h : History}

lemma ShowsCreated.of_exact {snapshot : NodeSnapshot} {created : CreatedContainer}
    {container : ObservedContainer}
    (hexact : exactCreatedContainer snapshot created = some container) :
    ShowsCreated snapshot created := by
  unfold exactCreatedContainer at hexact
  split at hexact
  · next c hfilter =>
    have hmem : c ∈ snapshot.containers.filter fun c => c.id == created.containerId := by
      rw [hfilter]; exact mem_singleton_self c
    obtain ⟨hin, hid⟩ := mem_filter.mp hmem
    split at hexact
    · next hmatch =>
      simp only [Bool.and_eq_true, beq_iff_eq] at hmatch
      exact ⟨c, hin, beq_iff_eq.mp hid, hmatch.1.1, hmatch.1.2, hmatch.2⟩
    · cases hexact
  · cases hexact

/-- One round of a rollback: the container is removed right after it was seen. -/
lemma rollbackOne_does {item : CreatedContainer} (horderly : Orderly (Allowed plan fp) h)
    (hitem : CreatedBy h item) :
    Always recorded (Orderly (Allowed plan fp))
      (fun h' r => ∃ error new, r = .ok error ∧ h' = h ++ new) (rollbackOne item) h := by
  refine Always.ask_bind (q := Call.inspectNode item.rolePlan) horderly
    (fun x => Quiet.allowed _ _ x trivial) ?_
  intro inspected horderly1
  cases inspected with
  | error e => exact .done horderly1 ⟨_, _, rfl, rfl⟩
  | ok snapshot =>
  refine Always.ite ?_ ?_
  · intro _; exact .done horderly1 ⟨_, _, rfl, rfl⟩
  intro hexact
  obtain ⟨container, hcontainer⟩ := Option.isSome_iff_exists.mp
    (Option.isNone_eq_false_iff.mp (Bool.eq_false_of_not_eq_true hexact))
  refine Always.ask_bind (q := Call.removeContainer item.rolePlan item.containerId)
    horderly1 ?_ ?_
  · intro x; exact ⟨h, snapshot, item, rfl, rfl, rfl, hitem, .of_exact hcontainer⟩
  · intro removed horderly2; exact .done horderly2 ⟨_, _, rfl, append_assoc _ _ _⟩

lemma rollbackEach_does {items : List CreatedContainer}
    (horderly : Orderly (Allowed plan fp) h) (hitems : ∀ c ∈ items, CreatedBy h c) :
    Always recorded (Orderly (Allowed plan fp)) (fun _ r => ∃ errors, r = .ok errors)
      (rollbackEach items) h := by
  induction items generalizing h with
  | nil => exact .done horderly ⟨_, rfl⟩
  | cons item rest ih =>
    refine (rollbackOne_does horderly (hitems item mem_cons_self)).bind ?_ ?_
    · intro h' error horderly' hpost
      obtain ⟨_, new, -, rfl⟩ := hpost
      refine (ih horderly' fun c hc =>
        (hitems c (mem_cons_of_mem _ hc)).mono (prefix_append _ _)).bind ?_ ?_
      · intro h'' errors horderly'' _; exact .done horderly'' ⟨_, rfl⟩
      · intro h'' e _ hpost
        obtain ⟨_, heq⟩ := hpost; cases heq
    · intro h' e _ hpost
      obtain ⟨_, _, heq, -⟩ := hpost; cases heq

lemma ExistingState.eq_clear {state : ExistingState} (h : state.isClear) :
    state = .clear := by
  cases state with
  | clear => rfl
  | _ => cases h

lemma failAfterRollback_does {created : List CreatedContainer} {code : FailureCode}
    {reason : String} (horderly : Orderly (Allowed plan fp) h)
    (hcreated : ∀ c ∈ created, CreatedBy h c) :
    Always recorded (Orderly (Allowed plan fp)) (Split (Settled plan fp) fun _ _ => True)
      (failAfterRollback plan fp created code reason) h := by
  have hrollback : Always recorded (Orderly (Allowed plan fp))
      (fun h' r => ∃ errors, r = .ok errors ∧
        (errors = [] → ∃ pre part, h' = pre ++ part ∧ InspectsClear plan fp part))
      (rollbackCreatedAndProveClear plan fp created) h := by
    refine (rollbackEach_does horderly fun c hc => hcreated c (mem_reverse.mp hc)).bind ?_ ?_
    · intro h1 errors horderly1 _
      refine (inspectAll_does Quiet.allowed horderly1).bind ?_ ?_
      · intro h2 snapshots horderly2 hpost
        obtain ⟨part, snapshots', heq, hh2, -, hinspects⟩ := hpost
        cases heq
        refine .done horderly2 ⟨_, rfl, fun hnil => ⟨h1, part, hh2, ?_⟩⟩
        split at hnil
        · next hclear =>
          obtain ⟨s, hs, hstate⟩ := (Option.any_eq_true _ _).mp hclear
          exact ⟨s, hinspects s hs, ExistingState.eq_clear hstate⟩
        · simp at hnil
      · intro h2 e _ hpost
        obtain ⟨_, _, heq, -⟩ := hpost; cases heq
    · intro h1 e _ hpost
      obtain ⟨_, heq⟩ := hpost; cases heq
  refine hrollback.bind ?_ ?_
  · intro h' errors horderly' hpost
    obtain ⟨_, heq, hclear⟩ := hpost
    cases heq
    refine .done horderly' fun _ hnil => ?_
    obtain ⟨pre, part, rfl, hpart⟩ := hclear hnil
    exact ⟨pre, part, .here, hpart⟩
  · intro h' e _ _; trivial

end Rollback

section Start

variable {plan : Plan} {fp : String} {h : History}

def RoleStart.containers : RoleStart → List CreatedContainer
  | started created => [created]
  | failed _ created => created.toList

lemma waitForRole_does (request : ContainerWaitRequest)
    (horderly : Orderly (Allowed plan fp) h) :
    Always recorded (Orderly (Allowed plan fp))
      (fun h' r => ∃ ready e, r = .ok ready ∧ h' = h ++ [e] ∧ Quiet e.call)
      (waitForRole request) h := by
  unfold waitForRole
  cases request.rolePlan.role with
  | head =>
    refine Always.ask_bind (q := Call.waitForContainerReady request) horderly
      (fun x => Quiet.allowed _ _ x trivial) ?_
    intro x horderly'; exact .done horderly' ⟨_, _, rfl, rfl, trivial⟩
  | worker =>
    refine Always.ask_bind (q := Call.waitForWorkerDistributedReady request) horderly
      (fun x => Quiet.allowed _ _ x trivial) ?_
    intro x horderly'; exact .done horderly' ⟨_, _, rfl, rfl, trivial⟩

lemma finishRole_does (created : CreatedContainer) (timeoutMs : ℚ)
    (horderly : Orderly (Allowed plan fp) h) :
    Always recorded (Orderly (Allowed plan fp))
      (fun h' r => ∃ result new, r = .ok result ∧ RoleStart.containers result = [created] ∧
        h' = h ++ new ∧ ∀ e ∈ new, Quiet e.call)
      (finishRole created timeoutMs) h := by
  refine (waitForRole_does _ horderly).bind ?_ ?_
  · intro h1 ready horderly1 hpost
    obtain ⟨_, wait, -, rfl, hwait⟩ := hpost
    refine Always.ite ?_ ?_
    · intro _
      refine .done horderly1 ⟨_, _, rfl, rfl, rfl, ?_⟩
      intro e he
      rw [mem_singleton.mp he]; exact hwait
    · intro _
      refine Always.ask_bind (q := Call.inspectNode created.rolePlan) horderly1
        (fun x => Quiet.allowed _ _ x trivial) ?_
      intro inspected horderly2
      refine .done horderly2 ⟨_, _, rfl, ?_, append_assoc _ _ _, ?_⟩
      · cases inspected with
        | error e => rfl
        | ok snapshot =>
          show (if _ then _ else _ : RoleStart).containers = _
          split <;> rfl
      · intro e he
        rcases mem_append.mp he with hin | hlast
        · rw [mem_singleton.mp hin]; exact hwait
        · rw [mem_singleton.mp hlast]; trivial
  · intro h1 e _ hpost
    obtain ⟨_, _, heq, -⟩ := hpost; cases heq

lemma startRole_does {rolePlan : RolePlan} (apiKey transactionId : String) (timeoutMs : ℚ)
    (horderly : Orderly (Allowed plan fp) h) (hclear : Cleared plan fp h)
    (hroles : startedRoles h ++ [rolePlan] <+: byDescendingRank plan.roles) :
    Always recorded (Orderly (Allowed plan fp))
      (fun h' r => ∃ result new, r = .ok result ∧ h' = h ++ new ∧
        (∀ e ∈ new, isStage e = false) ∧ startedRoles new = [rolePlan] ∧
        ∀ c ∈ RoleStart.containers result, CreatedBy h' c ∧ c.rolePlan = rolePlan ∧
          c.expectedLabels = labelsForStart rolePlan fp transactionId)
      (startRole rolePlan apiKey fp transactionId timeoutMs) h := by
  let request := ContainerStartRequest.mk rolePlan (labelsForStart rolePlan fp transactionId)
    rolePlan.preparation (if rolePlan.role = .head then some apiKey else none)
  refine Always.ask_bind (q := Call.startContainer request) horderly
    (fun x => ⟨hclear, hroles, transactionId, rfl⟩) ?_
  intro answer horderly1
  -- what is known of the history while nothing but the start is recorded
  have hstart : ∀ result : RoleStart, (∀ c ∈ result.containers,
        CreatedBy (h ++ [⟨.startContainer request, answer⟩]) c ∧ c.rolePlan = rolePlan ∧
          c.expectedLabels = labelsForStart rolePlan fp transactionId) →
      ∃ result' new, Except.ok (ε := String) result = .ok result' ∧
        h ++ [⟨.startContainer request, answer⟩] = h ++ new ∧
        (∀ e ∈ new, isStage e = false) ∧ startedRoles new = [rolePlan] ∧
        ∀ c ∈ RoleStart.containers result',
          CreatedBy (h ++ [⟨.startContainer request, answer⟩]) c ∧ c.rolePlan = rolePlan ∧
            c.expectedLabels = labelsForStart rolePlan fp transactionId := by
    intro result hresult
    refine ⟨result, _, rfl, rfl, ?_, rfl, hresult⟩
    intro e he
    rw [mem_singleton.mp he]; rfl
  cases answer with
  | error e => exact .done horderly1 (hstart _ nofun)
  | ok started =>
  refine Always.ite ?_ ?_
  · intro _; exact .done horderly1 (hstart _ nofun)
  intro hid
  have hreturned : started.containerId = some (started.containerId.getD "") := by
    cases hc : started.containerId with
    | none => rw [hc] at hid; exact absurd rfl hid
    | some id => rfl
  have hcreated : CreatedBy (h ++ [⟨.startContainer request, .ok started⟩])
      ⟨rolePlan, started.containerId.getD "", request.labels⟩ :=
    ⟨request, started, mem_append_right _ (mem_singleton_self _), rfl, rfl,
      hreturned⟩
  refine Always.ite ?_ ?_
  · intro _
    refine .done horderly1 (hstart _ fun c hc => ?_)
    obtain rfl := Option.mem_toList.mp hc |> Option.some.inj
    exact ⟨hcreated, rfl, rfl⟩
  · intro _
    refine (finishRole_does _ timeoutMs horderly1).mono ?_
    intro h' r _ hpost
    obtain ⟨result, new, rfl, hcontainers, rfl, hnew⟩ := hpost
    refine ⟨result, _, rfl, append_assoc _ _ _, ?_, ?_, ?_⟩
    · intro e he
      rcases mem_append.mp he with hin | hin
      · rw [mem_singleton.mp hin]; rfl
      · exact (hnew e hin).isStage
    · rw [startedRoles_append, startedRoles_quiet fun e he => (hnew e he).startedRole]; rfl
    · intro c hc
      rw [hcontainers] at hc
      rw [mem_singleton.mp hc]
      exact ⟨hcreated.mono (prefix_append _ _), rfl, rfl⟩

def Owns (fp transactionId : String) (h : History) (created : List CreatedContainer) : Prop :=
  ∀ c ∈ created, CreatedBy h c ∧
    c.expectedLabels = labelsForStart c.rolePlan fp transactionId

lemma Owns.append {transactionId : String} {h' : History} {created last : List CreatedContainer}
    (howns : Owns fp transactionId h created) (hpre : h <+: h')
    (hlast : Owns fp transactionId h' last) : Owns fp transactionId h' (created ++ last) := by
  intro c hc
  rcases mem_append.mp hc with hin | hin
  · exact ⟨(howns c hin).1.mono hpre, (howns c hin).2⟩
  · exact hlast c hin

lemma startEach_does (apiKey transactionId : String) (timeoutMs : ℚ) {roles : List RolePlan}
    {created : List CreatedContainer} (horderly : Orderly (Allowed plan fp) h)
    (hclear : Cleared plan fp h) (hroles : startedRoles h ++ roles = byDescendingRank plan.roles)
    (hstarted : created.map (·.rolePlan) = startedRoles h)
    (howns : Owns fp transactionId h created) :
    Always recorded (Orderly (Allowed plan fp))
      (fun h' r => ∃ reason out, r = .ok (reason, out) ∧ Owns fp transactionId h' out ∧
        (reason = none → out.map (·.rolePlan) = byDescendingRank plan.roles))
      (startEach apiKey fp transactionId timeoutMs roles created) h := by
  induction roles generalizing h created with
  | nil =>
    refine .done horderly ⟨none, created, rfl, howns, fun _ => ?_⟩
    rw [hstarted, ← hroles, append_nil]
  | cons role rest ih =>
    refine (startRole_does apiKey transactionId timeoutMs horderly hclear
      ⟨rest, by rw [← hroles, append_assoc]; rfl⟩).bind ?_ ?_
    · intro h' result horderly' hpost
      obtain ⟨result', new, heq, rfl, hstage, hnew, hcontainers⟩ := hpost
      cases heq
      have hlast : Owns fp transactionId (h ++ new) (RoleStart.containers result) := by
        intro c hc
        obtain ⟨hcreated, hrole, hlabels⟩ := hcontainers c hc
        exact ⟨hcreated, by rw [hlabels, hrole]⟩
      have howns' := howns.append (prefix_append h new) hlast
      cases result with
      | failed reason last => exact .done horderly' ⟨some reason, _, rfl, howns', nofun⟩
      | started container =>
      refine ih horderly' (hclear.append hstage) ?_ ?_ howns'
      · rw [startedRoles_append, hnew, append_assoc]; exact hroles
      · rw [map_append, startedRoles_append, hnew, hstarted]
        rw [map_singleton, (hcontainers container (mem_singleton_self _)).2.1]
    · intro h' e _ hpost
      obtain ⟨_, _, heq, -⟩ := hpost; cases heq

lemma stageEach_does {roles : List RolePlan} (horderly : Orderly (Allowed plan fp) h)
    (hroles : ∀ role ∈ roles, role ∈ plan.roles)
    (hclear : ∃ pre part mid, h = pre ++ part ++ mid ∧ InspectsClear plan fp part) :
    Always recorded (Orderly (Allowed plan fp))
      (fun h' r => ∃ results new, r = .ok results ∧ h' = h ++ new ∧ startedRoles new = [])
      (stageEach roles) h := by
  induction roles generalizing h with
  | nil => exact .done horderly ⟨_, [], rfl, (append_nil h).symm, rfl⟩
  | cons role rest ih =>
    refine Always.ask_bind (q := Call.stageNode role role.preparation) horderly
      (fun x => ⟨hroles role mem_cons_self, hclear⟩) ?_
    intro staged horderly1
    refine (ih horderly1 (fun r hr => hroles r (mem_cons_of_mem _ hr)) ?_).bind ?_ ?_
    · obtain ⟨pre, part, mid, rfl, hpart⟩ := hclear
      exact ⟨pre, part, _, append_assoc _ _ _, hpart⟩
    · intro h' results horderly' hpost
      obtain ⟨_, new, -, rfl, hnew⟩ := hpost
      refine .done horderly' ⟨_, _, rfl, append_assoc _ _ _, ?_⟩
      rw [startedRoles_append, hnew]; rfl
    · intro h' e _ hpost
      obtain ⟨_, _, heq, -⟩ := hpost; cases heq

end Start

section Classification

variable {plan : Plan} {fp : String}

lemma exactRoleObservation_some {snapshot : NodeSnapshot} {rolePlan : RolePlan}
    {o : RoleObservation} (h : exactRoleObservation snapshot rolePlan fp = some o) :
    o.rolePlan = rolePlan ∧ snapshot.containers.filter (·.name == rolePlan.containerName) =
        [o.container] ∧ o.container.image = rolePlan.image ∧
      labelsMatch o.container.labels
        (labelsForStart rolePlan fp (transactionOf o.container)) := by
  unfold exactRoleObservation at h
  split at h
  · next container hfilter =>
    simp only [Option.ite_none_right_eq_some, Bool.and_eq_true, beq_iff_eq] at h
    obtain ⟨⟨⟨⟨-, -⟩, himage⟩, hlabels⟩, ho⟩ := h
    cases ho; exact ⟨rfl, hfilter, himage, hlabels⟩
  · cases h

variable {snapshots : List RoleSnapshot}

/-- The snapshots of an inspection, found by node, when no two roles share a node. -/
lemma snapshotOf_mem {nodeId : String} {snapshot : NodeSnapshot}
    (h : snapshotOf snapshots nodeId = some snapshot) :
    ∃ s ∈ snapshots, s.nodeId = nodeId ∧ s.snapshot = snapshot := by
  obtain ⟨s, hs, hsnapshot⟩ := Option.map_eq_some_iff.mp h
  have hid : (s.nodeId == nodeId) := List.find?_some (p := fun s : RoleSnapshot => s.nodeId == nodeId) hs
  exact ⟨s, mem_of_find?_eq_some hs, beq_iff_eq.mp hid, hsnapshot⟩

lemma map_some_filterMap {α : Type} {l : List (Option α)} (h : l.any Option.isNone = false) :
    l = (l.filterMap id).map some := by
  induction l with
  | nil => rfl
  | cons o rest ih =>
    cases o with
    | none => cases h
    | some a =>
      rw [any_cons, Bool.or_eq_false_iff] at h
      rw [filterMap_cons, id, map_cons, ← ih h.2]

lemma allEqual_head {α : Type} {f : α → String} {l : List α} (h : allEqual (l.map f))
    {a : α} (ha : a ∈ l) : f a = (l.head?.map f).getD "" := by
  have hhead := all_eq_true.mp h (f a) (mem_map_of_mem ha)
  rw [beq_iff_eq, List.head?_map] at hhead
  rw [hhead]; rfl

lemma classify_reuse {containers : List OwnedContainer} {transactionId : String}
    (h : classifyManagedClusterExistingState plan fp snapshots = .reuse containers transactionId) :
    (snapshots.map (·.nodeId)).Nodup ∧ snapshots.length = plan.roles.length ∧
      ∃ exact : List RoleObservation,
        observationsOf plan fp snapshots = exact.map some ∧
        unexpectedRelated snapshots exact = none ∧
        (∀ o ∈ exact, transactionOf o.container = transactionId ∧
          o.container.running ∧ o.container.healthy) ∧
        containers = exact.map fun o => ⟨o.rolePlan.nodeId, o.container.id⟩ := by
  unfold classifyManagedClusterExistingState at h
  split at h
  · cases h
  split at h
  · cases h
  next _ hcomplete =>
  split at h
  · cases h
  dsimp only at h
  split at h
  · cases h
  next hunexpected =>
  split at h
  · split at h
    · cases h
    · split at h
      · cases h
      · split at h
        · cases h
        · next hnone hequal hhealthy =>
          injection h with hcontainers htx
          simp only [Bool.or_eq_true, bne_iff_ne, ne_eq, Bool.not_eq_true',
            decide_eq_false_iff_not, not_or, not_not] at hcomplete
          refine ⟨hcomplete.1.2, hcomplete.1.1, _,
            map_some_filterMap (Bool.eq_false_of_not_eq_true hnone), hunexpected, ?_,
            hcontainers.symm⟩
          intro o ho
          have hrunning : ¬((!o.container.running || !o.container.healthy)) :=
            fun hbad => hhealthy (any_eq_true.mpr ⟨o, ho, hbad⟩)
          simp only [Bool.or_eq_true, Bool.not_eq_true', not_or,
            Bool.not_eq_false] at hrunning
          refine ⟨?_, hrunning⟩
          rw [← htx]
          exact allEqual_head (f := fun o => transactionOf o.container)
            (by simpa using hequal) ho
  · split at h
    · cases h
    · split at h <;> cases h

lemma nodeIds_of_inspects {part : History} (h : Inspects plan part snapshots) :
    snapshots.map (·.nodeId) = plan.roles.map (·.nodeId) := by
  obtain ⟨nodes, hlength, -, rfl⟩ := h
  unfold roleSnapshots
  rw [map_zipWith]
  generalize plan.roles = roles at hlength
  induction roles generalizing nodes with
  | nil => rfl
  | cons role rest ih =>
    cases nodes with
    | nil => cases hlength
    | cons node nodes => rw [zipWith_cons_cons, map_cons, ih nodes (by simpa using hlength)]

lemma mem_byDescendingRank {role : RolePlan} :
    role ∈ byDescendingRank plan.roles ↔ role ∈ plan.roles :=
  mem_insertionSort _

/-- An observation is the one of its role's snapshot. -/
lemma mem_observed {exact : List RoleObservation} {o : RoleObservation}
    (hobserved : observationsOf plan fp snapshots = exact.map some) (ho : o ∈ exact) :
    o.rolePlan ∈ plan.roles ∧ ((snapshotOf snapshots o.rolePlan.nodeId).bind fun s =>
      exactRoleObservation s o.rolePlan fp) = some o := by
  have hmem : some o ∈ observationsOf plan fp snapshots := by
    rw [hobserved]; exact mem_map_of_mem ho
  obtain ⟨role, hin, heq⟩ := mem_map.mp hmem
  obtain ⟨s, -, hs⟩ := Option.bind_eq_some_iff.mp heq
  rw [(exactRoleObservation_some hs).1]; exact ⟨hin, heq⟩

lemma showsExactly_of_commits {part : History} {created : List CreatedContainer}
    {transactionId : String} (hinspects : Inspects plan part snapshots)
    (hroles : created.map (·.rolePlan) = byDescendingRank plan.roles)
    (hcommits : commits (classifyManagedClusterExistingState plan fp snapshots) transactionId created) :
    ShowsExactly fp transactionId snapshots created := by
  unfold commits at hcommits
  split at hcommits
  case h_2 => cases hcommits
  case h_1 containers transaction hstate =>
  simp only [Bool.and_eq_true, beq_iff_eq, all_eq_true, contains_eq_mem,
    decide_eq_true_eq] at hcommits
  obtain ⟨⟨rfl, -⟩, hcontained⟩ := hcommits
  obtain ⟨hnodup, -, exact, hobserved, hunexpected, hhealthy, rfl⟩ := classify_reuse hstate
  have hroleNodup : (plan.roles.map (·.nodeId)).Nodup := by
    rw [← nodeIds_of_inspects hinspects]; exact hnodup
  -- each created container is the one observed for its role
  have hcreated : ∀ c ∈ created, ∃ o ∈ exact, o.rolePlan = c.rolePlan ∧
      o.container.id = c.containerId := by
    intro c hc
    have hmem : c.rolePlan ∈ plan.roles := by
      rw [← mem_byDescendingRank, ← hroles]; exact mem_map_of_mem hc
    obtain ⟨o, ho, heq⟩ := mem_map.mp (hcontained c hc)
    injection heq with hnode hid
    exact ⟨o, ho, inj_on_of_nodup_map hroleNodup (mem_observed hobserved ho).1 hmem hnode, hid⟩
  have hseen : ∀ c ∈ created, ∃ o ∈ exact, o.rolePlan = c.rolePlan ∧
      o.container.id = c.containerId ∧ ∃ s ∈ snapshots, s.nodeId = c.rolePlan.nodeId ∧
        exactRoleObservation s.snapshot c.rolePlan fp = some o := by
    intro c hc
    obtain ⟨o, ho, hrolePlan, hid⟩ := hcreated c hc
    obtain ⟨-, heq⟩ := mem_observed hobserved ho
    rw [hrolePlan] at heq
    obtain ⟨snapshot, hsnapshot, hobservation⟩ := Option.bind_eq_some_iff.mp heq
    obtain ⟨s, hs, hnode, rfl⟩ := snapshotOf_mem hsnapshot
    exact ⟨o, ho, hrolePlan, hid, s, hs, hnode, hobservation⟩
  refine ⟨?_, ?_, ?_⟩
  · intro c hc
    obtain ⟨o, ho, -, hid, s, hs, hnode, hobservation⟩ := hseen c hc
    obtain ⟨-, hfilter, himage, hlabels⟩ := exactRoleObservation_some hobservation
    have hin : o.container ∈ s.snapshot.containers.filter (·.name == c.rolePlan.containerName) := by
      rw [hfilter]; exact mem_singleton_self _
    obtain ⟨hmem, hname⟩ := mem_filter.mp hin
    obtain ⟨htx, hrunning, hhealth⟩ := hhealthy o ho
    rw [htx] at hlabels
    exact ⟨s, hs, hnode, o.container, hmem, hid, beq_iff_eq.mp hname, himage, hlabels, htx,
      hrunning, hhealth⟩
  · intro c hc s' hs' hnode' container hcontainer hname
    obtain ⟨o, -, -, hid, s, hs, hnode, hobservation⟩ := hseen c hc
    have hsame : s' = s :=
      inj_on_of_nodup_map hnodup hs' hs (hnode'.trans hnode.symm)
    subst hsame
    have hin : container ∈ s'.snapshot.containers.filter
        (·.name == c.rolePlan.containerName) :=
      mem_filter.mpr ⟨hcontainer, beq_iff_eq.mpr hname⟩
    rw [(exactRoleObservation_some hobservation).2.1] at hin
    rw [mem_singleton.mp hin, hid]
  · intro s hs container hcontainer hrelated
    have hnot := List.find?_eq_none.mp hunexpected container
      (mem_flatMap.mpr ⟨s, hs, hcontainer⟩)
    rw [hrelated, Bool.true_and, Bool.not_eq_true', Bool.not_eq_false, contains_eq_mem,
      decide_eq_true_eq] at hnot
    obtain ⟨o, ho, hid⟩ := mem_map.mp hnot
    have hmem : o.rolePlan ∈ created.map (·.rolePlan) := by
      rw [hroles, mem_byDescendingRank]; exact (mem_observed hobserved ho).1
    obtain ⟨c, hc, hrolePlan⟩ := mem_map.mp hmem
    obtain ⟨o', ho', hrolePlan', hid'⟩ := hcreated c hc
    have hsame : o' = o := by
      have heq := (mem_observed hobserved ho').2
      rw [hrolePlan', hrolePlan, (mem_observed hobserved ho).2] at heq; exact (Option.some.inj heq).symm
    exact ⟨c, hc, by rw [← hid', hsame, hid]⟩

end Classification

section Lifecycle

variable {plan : Plan} {fp : String} {h : History}

section

variable (apiKey : String)
include apiKey

lemma probeManagedApi_quiet : (probeManagedApi plan apiKey).Calls Quiet := by
  refine Calls.bind .done fun head => ?_
  split
  · exact .done
  · exact .done
  refine Calls.bind (.ask (q := Call.probeModels _) trivial) fun models => ?_
  split
  · exact Calls.bind (.ask (q := Call.probeChat _) trivial) fun _ => .done
  · exact .done

section

variable (horderly : Orderly (Allowed plan fp) h)
include horderly

lemma commitCluster_does {transactionId : String} {created : List CreatedContainer}
    (howns : Owns fp transactionId h created)
    (hroles : created.map (·.rolePlan) = byDescendingRank plan.roles) :
    Always recorded (Orderly (Allowed plan fp)) (Split (Settled plan fp) fun _ _ => True)
      (commitCluster plan apiKey fp transactionId created) h := by
  refine (Always.quiet (probeManagedApi_quiet apiKey) Quiet.allowed horderly).bind ?_
    fun _ _ _ _ => trivial
  intro h1 healthy horderly1 hpost
  obtain ⟨new, rfl, -⟩ := hpost
  have howned : ∀ c ∈ created, CreatedBy (h ++ new) c :=
    fun c hc => (howns c hc).1.mono (prefix_append _ _)
  refine Always.ite (fun _ => failAfterRollback_does horderly1 howned) fun _ => ?_
  refine (inspectAll_does Quiet.allowed horderly1).bind ?_ fun _ _ _ _ => trivial
  intro h2 snapshots horderly2 hpost
  obtain ⟨part, _, heq, rfl, -, hinspects⟩ := hpost
  cases heq
  refine Always.ite ?_ ?_
  · intro hcommits
    obtain ⟨s, hs, hcommits⟩ := (Option.any_eq_true _ _).mp hcommits
    refine Always.lift horderly2 (fun head _ => .done horderly2 ?_) fun _ _ => trivial
    exact ⟨_, part, s, created, transactionId, .here, hinspects s hs, hroles, howned, rfl,
      showsExactly_of_commits (hinspects s hs) hroles hcommits⟩
  · intro _
    exact failAfterRollback_does horderly2 fun c hc =>
      (howned c hc).mono (prefix_append _ _)

lemma startStagedCluster_does (hclear : Cleared plan fp h) (hroles : startedRoles h = []) :
    Always recorded (Orderly (Allowed plan fp)) (Split (Settled plan fp) fun _ _ => True)
      (startStagedCluster plan apiKey fp) h := by
  refine Always.ask_bind (q := Call.createTransactionId) horderly
    (fun x => Quiet.allowed _ _ x trivial) ?_
  intro answer horderly1
  have hquiet : ∀ e ∈ [Event.mk (A := Answer) .createTransactionId answer], Quiet e.call := by
    intro e he
    rw [mem_singleton.mp he]; trivial
  refine Always.lift horderly1 (fun transactionId _ => ?_) fun _ _ => trivial
  refine Always.ite (fun _ => .done horderly1 fun hcode => by rcases hcode with h | h <;> cases h)
    fun _ => ?_
  have hnone : startedRoles (h ++ [⟨.createTransactionId, answer⟩]) = [] := by
    rw [startedRoles_append, hroles, startedRoles_quiet fun e he => (hquiet e he).startedRole]
    rfl
  have hempty : Owns fp transactionId (h ++ [⟨.createTransactionId, answer⟩]) [] :=
    forall_mem_nil _
  refine (startEach_does apiKey transactionId plan.readiness.timeoutMs horderly1
    (hclear.append fun e he => (hquiet e he).isStage) ?_ ?_ hempty).bind ?_ fun _ _ _ _ => trivial
  · rw [hnone, nil_append]
  · rw [hnone, map_nil]
  · intro h2 started horderly2 hpost
    obtain ⟨reason, created, heq, howns, hall⟩ := hpost
    cases heq
    cases reason with
    | some reason => exact failAfterRollback_does horderly2 fun c hc => (howns c hc).1
    | none => exact commitCluster_does apiKey horderly2 howns (hall rfl)

lemma startNewCluster_does (hroles : startedRoles h = [])
    (hclear : ∃ pre part mid, h = pre ++ part ++ mid ∧ InspectsClear plan fp part) :
    Always recorded (Orderly (Allowed plan fp)) (Split (Settled plan fp) fun _ _ => True)
      (startNewCluster plan apiKey fp) h := by
  refine (stageEach_does horderly (fun role hrole => mem_byDescendingRank.mp hrole)
    hclear).bind ?_ fun _ _ _ _ => trivial
  intro h1 staged horderly1 hpost
  obtain ⟨_, new, -, rfl, hnew⟩ := hpost
  split
  · exact .done horderly1 fun hcode => by rcases hcode with h | h <;> cases h
  refine (inspectAll_does Quiet.allowed horderly1).bind ?_ fun _ _ _ _ => trivial
  intro h2 snapshots horderly2 hpost
  obtain ⟨part, _, heq, rfl, hquiet, hinspects⟩ := hpost
  cases heq
  split
  · exact .done horderly2 fun hcode => by rcases hcode with h | h <;> cases h
  next s =>
  refine Always.ite ?_ ?_
  · intro _
    refine .done horderly2 fun hcode => ?_
    revert hcode
    cases classifyManagedClusterExistingState plan fp s <;>
      exact fun hcode => by rcases hcode with h | h <;> cases h
  · intro hstate
    have hclear' := ExistingState.eq_clear
      (Bool.not_eq_false' .. ▸ Bool.eq_false_of_not_eq_true hstate)
    refine startStagedCluster_does apiKey horderly2
      ⟨_, part, [], (append_nil _).symm, ⟨s, hinspects s rfl, hclear'⟩,
        forall_mem_nil _⟩ ?_
    rw [startedRoles_append, startedRoles_append, hroles, hnew,
      startedRoles_quiet fun e he => (hquiet e he).startedRole]
    rfl

lemma startUnderLock_does (hroles : startedRoles h = []) :
    Always recorded (Orderly (Allowed plan fp)) (Split (Settled plan fp) fun _ _ => True)
      (startUnderLock plan apiKey fp) h := by
  have hpreflight : Always recorded (Orderly (Allowed plan fp))
      (fun h' r => ∃ part state, r = .ok state ∧ h' = h ++ part ∧ (∀ e ∈ part, Quiet e.call) ∧
        (state = .clear → InspectsClear plan fp part))
      (preflightManagedClusterVllm plan fp) h := by
    refine (inspectAll_does Quiet.allowed horderly).bind ?_ ?_
    · intro h1 snapshots horderly1 hpost
      obtain ⟨part, _, heq, rfl, hquiet, hinspects⟩ := hpost
      cases heq
      refine .done horderly1 ⟨part, _, rfl, rfl, hquiet, fun hclear => ?_⟩
      cases snapshots with
      | none => cases hclear
      | some s => exact ⟨s, hinspects s rfl, hclear⟩
    · intro h1 e _ hpost
      obtain ⟨_, _, heq, -⟩ := hpost; cases heq
  refine hpreflight.bind ?_ fun _ _ _ _ => trivial
  intro h1 state horderly1 hpost
  obtain ⟨part, _, heq, rfl, hquiet, hclear⟩ := hpost
  cases heq
  have hrefused : ∀ code reason, code ≠ .startFailed → code ≠ .healthFailed →
      Settled plan fp (h ++ part) (.failed code reason []) :=
    fun code reason hstart hhealth hcode => (hcode.elim hstart hhealth).elim
  cases state with
  | unknown reason => exact .done horderly1 (hrefused .unknown reason (by decide) (by decide))
  | conflict reason =>
    exact .done horderly1 (hrefused .conflict reason (by decide) (by decide))
  | reuse containers transactionId =>
    refine (Always.quiet (probeManagedApi_quiet apiKey) Quiet.allowed horderly1).bind ?_
      fun _ _ _ _ => trivial
    intro h2 healthy horderly2 _
    refine Always.ite (fun _ => .done horderly2 fun hcode => by rcases hcode with h | h <;> cases h)
      fun _ => ?_
    exact Always.lift horderly2 (fun head _ => .done horderly2 trivial) fun _ _ => trivial
  | clear =>
    refine startNewCluster_does apiKey horderly1 ?_
      ⟨h, part, [], (append_nil _).symm, hclear rfl⟩
    rw [startedRoles_append, hroles, startedRoles_quiet fun e he => (hquiet e he).startedRole]
    rfl

end

end

lemma withLifecycleLock_does {operation : Run StartResult}
    (horderly : Orderly (Allowed plan fp) h)
    (hoperation : ∀ h', startedRoles h' = startedRoles h → Orderly (Allowed plan fp) h' →
      Always recorded (Orderly (Allowed plan fp)) (Split (Settled plan fp) fun _ _ => True)
        operation h') :
    Always recorded (Orderly (Allowed plan fp)) (Split (Settled plan fp) fun _ _ => True)
      (withLifecycleLock operation) h := by
  refine Always.ask_bind (q := Call.lockLifecycle) horderly
    (fun x => Quiet.allowed _ _ x trivial) ?_
  intro locked horderly1
  refine Always.lift horderly1 (fun _ _ => ?_) fun _ _ => trivial
  have hrun := hoperation (h ++ [⟨.lockLifecycle, locked⟩])
    (by rw [startedRoles_append]; exact append_nil _) horderly1
  refine hrun.attempt_bind ?_
  intro h2 r horderly2 hpost
  refine Always.ask_bind (q := Call.unlockLifecycle) horderly2
    (fun x => Quiet.allowed _ _ x trivial) ?_
  intro unlocked horderly3
  refine Always.lift horderly3 (fun _ _ => .done horderly3 ?_) fun _ _ => trivial
  cases r with
  | error e => trivial
  | ok result => exact Settled.unlocked hpost unlocked

end Lifecycle

section Cleanup

variable {h : History} {ownership : List OwnedContainer}

def CleanupAllowed (ownership : List OwnedContainer) (_ : History) : Event Call Answer → Prop
  | ⟨.stageNode _ _, _⟩ | ⟨.startContainer _, _⟩ => False
  | ⟨.removeContainer rolePlan containerId, _⟩ => ⟨rolePlan.nodeId, containerId⟩ ∈ ownership
  | _ => True

lemma Quiet.cleanupAllowed (h : History) (q : Call) (x : Answer q) (hq : Quiet q) :
    CleanupAllowed ownership h ⟨q, x⟩ := by
  cases q with
  | stageNode _ _ => exact hq.elim
  | startContainer _ => exact hq.elim
  | removeContainer _ _ => exact hq.elim
  | _ => trivial

lemma cleanupTarget_owned {fp : String} {snapshots : List RoleSnapshot}
    {transactionId : Option String} {rolePlan : RolePlan} {o : RoleObservation}
    (hok : cleanupTarget fp snapshots ownership transactionId rolePlan = .ok (.inl o)) :
    ⟨o.rolePlan.nodeId, o.container.id⟩ ∈ ownership := by
  unfold cleanupTarget at hok
  split at hok
  case h_2 => cases hok
  case h_1 snapshot owned hsnapshot howned =>
  dsimp only at hok
  split at hok
  · cases hok
  split at hok
  · split at hok <;> cases hok
  split at hok
  · cases hok
  next observation hexact =>
  split at hok
  · cases hok
  next hsame =>
  split at hok
  · cases hok
  injection hok with hok
  cases hok
  have hnode : (owned.nodeId == rolePlan.nodeId) :=
    List.find?_some (p := fun owned : OwnedContainer => owned.nodeId == rolePlan.nodeId)
      howned
  simp only [Bool.or_eq_true, bne_iff_ne, ne_eq, not_or, not_not] at hsame
  rw [(exactRoleObservation_some hexact).1, hsame.1, ← beq_iff_eq.mp hnode]
  exact mem_of_find?_eq_some howned

lemma cleanupTargets_owned {fp : String} {snapshots : List RoleSnapshot}
    {roles : List RolePlan} {transactionId : Option String} {targets : CleanupTargets}
    (hok : cleanupTargets fp snapshots ownership roles transactionId = .ok targets) :
    ∀ o ∈ targets.observations, ⟨o.rolePlan.nodeId, o.container.id⟩ ∈ ownership := by
  induction roles generalizing transactionId targets with
  | nil =>
    cases hok
    exact forall_mem_nil _
  | cons role rest ih =>
    unfold cleanupTargets at hok
    cases htarget : cleanupTarget fp snapshots ownership transactionId role with
    | error e => rw [htarget] at hok; cases hok
    | ok target =>
      rw [htarget] at hok
      cases target with
      | inl observation =>
        cases hrest : cleanupTargets fp snapshots ownership rest
            (some (transactionOf observation.container)) with
        | error e => simp only [Except.bind, hrest] at hok; cases hok
        | ok targets' =>
          simp only [Except.bind, hrest, Except.map] at hok
          cases hok
          intro o ho
          rcases mem_cons.mp ho with rfl | hin
          · exact cleanupTarget_owned htarget
          · exact ih hrest o hin
      | inr absent =>
        cases hrest : cleanupTargets fp snapshots ownership rest transactionId with
        | error e => simp only [Except.bind, hrest] at hok; cases hok
        | ok targets' =>
          simp only [Except.bind, hrest, Except.map] at hok
          cases hok; exact fun o ho => ih hrest o ho

lemma removeEach_does (absent : List String) {observations : List RoleObservation}
    {removed : List String} (horderly : Orderly (CleanupAllowed ownership) h)
    (howned : ∀ o ∈ observations, ⟨o.rolePlan.nodeId, o.container.id⟩ ∈ ownership) :
    Always recorded (Orderly (CleanupAllowed ownership)) (fun _ _ => True)
      (removeEach absent observations removed) h := by
  induction observations generalizing h removed with
  | nil => exact .done horderly trivial
  | cons o rest ih =>
    refine Always.ask_bind (q := Call.removeContainer o.rolePlan o.container.id) horderly
      (fun x => howned o mem_cons_self) ?_
    intro answer horderly1
    refine Always.lift horderly1 (fun result _ => ?_) fun _ _ => trivial
    exact Always.ite (fun _ => .done horderly1 trivial) fun _ =>
      ih horderly1 fun o' ho' => howned o' (mem_cons_of_mem _ ho')

lemma cleanupUnderLock_does (plan : Plan) (fp : String)
    (horderly : Orderly (CleanupAllowed ownership) h) :
    Always recorded (Orderly (CleanupAllowed ownership)) (fun _ _ => True)
      (cleanupUnderLock plan fp (some ownership)) h := by
  refine (inspectAll_does Quiet.cleanupAllowed horderly).bind ?_ fun _ _ _ _ => trivial
  intro h1 inspected horderly1 _
  cases inspected with
  | none => exact .done horderly1 trivial
  | some snapshots =>
  dsimp only
  split
  · exact .done horderly1 trivial
  next targets htargets =>
  refine removeEach_does _ horderly1 ?_
  unfold receiptOwnedTargetsForCleanup at htargets
  dsimp only at htargets
  split at htargets
  · cases htargets
  · exact cleanupTargets_owned htargets

lemma cleanup_does (hmac : String → String) (plan : Plan) (apiKey : String) :
    Always recorded (Orderly (CleanupAllowed ownership)) (fun _ _ => True)
      (cleanupManagedClusterManagedVllm hmac plan apiKey (some ownership)) [] := by
  unfold cleanupManagedClusterManagedVllm
  split
  · exact .done orderly_nil trivial
  next fp _ =>
  have hlocked : Always recorded (Orderly (CleanupAllowed ownership)) (fun _ _ => True)
      (withLifecycleLock (cleanupUnderLock plan fp (some ownership))) [] := by
    refine Always.ask_bind (q := Call.lockLifecycle) orderly_nil
      (fun x => Quiet.cleanupAllowed _ _ x trivial) ?_
    intro locked horderly1
    refine Always.lift horderly1 (fun _ _ => ?_) fun _ _ => trivial
    refine (cleanupUnderLock_does plan fp horderly1).attempt_bind ?_
    intro h2 r horderly2 _
    refine Always.ask_bind (q := Call.unlockLifecycle) horderly2
      (fun x => Quiet.cleanupAllowed _ _ x trivial) ?_
    intro unlocked horderly3
    exact Always.lift horderly3 (fun _ _ => .done horderly3 trivial) fun _ _ => trivial
  exact hlocked.handle (fun _ _ _ _ => trivial) fun _ _ horderly _ => .done horderly trivial

end Cleanup

lemma byDescendingRank_order (plan : Plan) :
    (byDescendingRank plan.roles).Perm plan.roles ∧
      (byDescendingRank plan.roles).Pairwise fun left right => right.rank ≤ left.rank := by
  refine ⟨perm_insertionSort _ _, ?_⟩
  have htotal : Std.Total fun left right : RolePlan => right.rank ≤ left.rank :=
    ⟨fun left right => le_total right.rank left.rank⟩
  have htrans : IsTrans RolePlan fun left right => right.rank ≤ left.rank :=
    ⟨fun _ _ _ hleft hright => le_trans hright hleft⟩
  exact pairwise_insertionSort _ _

lemma startedRoles_of_orderly {plan : Plan} {fp : String} {h : History}
    (horderly : Orderly (Allowed plan fp) h) :
    startedRoles h <+: byDescendingRank plan.roles := by
  induction h using List.reverseRecOn with
  | nil => exact nil_prefix
  | append_singleton h e ih =>
    have hlast := horderly h e [] rfl
    have hinit : Orderly (Allowed plan fp) h := by
      intro before e' after hsplit
      exact horderly before e' (after ++ [e]) (by rw [hsplit, append_assoc]; rfl)
    rw [startedRoles_append]
    obtain ⟨q, x⟩ := e
    cases q with
    | startContainer request => exact hlast.2.1
    | _ => have hnil := ih hinit; rwa [← append_nil (startedRoles h)] at hnil

/-- Whatever the executor answers: every call of a run is one that is allowed where it is made,
the roles are started in descending order of their ranks, a run ends with a result that its
history bears out, and a cleanup with a receipt keeps to the receipt. -/
theorem managedCluster_owned (hmac : String → String) (plan : Plan) (apiKey : String) :
    (∀ h, Passes recorded [] (startAutomaticManagedClusterVllm hmac plan apiKey) h →
      Orderly (Allowed plan (hmac apiKey)) h ∧ startedRoles h <+: byDescendingRank plan.roles) ∧
    ((byDescendingRank plan.roles).Perm plan.roles ∧
      (byDescendingRank plan.roles).Pairwise fun left right => right.rank ≤ left.rank) ∧
    (∀ h r, Ends recorded [] (startAutomaticManagedClusterVllm hmac plan apiKey) h r →
      ∃ result, r = .ok result ∧ Settled plan (hmac apiKey) h result) ∧
    (∀ ownership h, Passes recorded []
        (cleanupManagedClusterManagedVllm hmac plan apiKey (some ownership)) h →
      Orderly (CleanupAllowed ownership) h) := by
  have hrun : Always recorded (Orderly (Allowed plan (hmac apiKey)))
      (fun h r => ∃ result, r = .ok result ∧ Settled plan (hmac apiKey) h result)
      (startAutomaticManagedClusterVllm hmac plan apiKey) [] := by
    unfold startAutomaticManagedClusterVllm managedClusterVllmApiKeyFingerprint
    by_cases hkey : isLowerHexOf 64 apiKey
    · rw [if_pos hkey]
      have hlocked : Always recorded (Orderly (Allowed plan (hmac apiKey)))
          (Split (Settled plan (hmac apiKey)) fun _ _ => True)
          (withLifecycleLock (startUnderLock plan apiKey (hmac apiKey))) [] :=
        withLifecycleLock_does orderly_nil fun h' hroles horderly =>
          startUnderLock_does apiKey horderly hroles
      refine hlocked.handle (fun h result _ hsettled => ⟨result, rfl, hsettled⟩) ?_
      intro h message horderly _
      exact .done horderly ⟨_, rfl, fun hcode => by rcases hcode with h | h <;> cases h⟩
    · rw [if_neg hkey]
      exact .done orderly_nil ⟨_, rfl, fun hcode => by rcases hcode with h | h <;> cases h⟩
  refine ⟨?_, byDescendingRank_order plan, fun h r hends => hrun.ends hends, ?_⟩
  · intro h hpasses
    exact ⟨hrun.passes hpasses, startedRoles_of_orderly (hrun.passes hpasses)⟩
  · intro ownership h hpasses; exact (cleanup_does hmac plan apiKey).passes hpasses

def hexText (c : Char) (n : ℕ) : String := .ofList (List.replicate n c)

def twoNodes : Plan :=
  ⟨[⟨.head, 0, "spark-a", "nemoclaw-vllm-cluster-head", "vllm:1", .null,
        some "http://127.0.0.1:8000/v1", [(MANAGED_LABEL, "true")]⟩,
      ⟨.worker, 1, "spark-b", "nemoclaw-vllm-cluster-worker", "vllm:1", .null, none,
        [(MANAGED_LABEL, "true")]⟩], 8000, 29500, ⟨600000, "model"⟩⟩

def idOn (rolePlan : RolePlan) : String :=
  if rolePlan.role = .head then hexText 'a' 64 else hexText 'b' 64

/-- What a node shows of a start. -/
def shownOn (rolePlan : RolePlan) (e : Event Call Answer) : Option ObservedContainer :=
  match e.call with
  | .startContainer request =>
    if request.rolePlan.nodeId = rolePlan.nodeId then
      some ⟨idOn rolePlan, rolePlan.containerName, rolePlan.image, true, true, request.labels⟩
    else none
  | _ => none

def obligingExecutor (h : History) : (q : Call) → Answer q
  | .lockLifecycle | .unlockLifecycle => .ok ()
  | .inspectNode rolePlan => .ok ⟨h.filterMap (shownOn rolePlan), []⟩
  | .stageNode _ _ | .removeContainer _ _ => .ok ⟨true, none⟩
  | .startContainer request => .ok ⟨true, some (idOn request.rolePlan), none⟩
  | .waitForContainerReady _ | .waitForWorkerDistributedReady _ => .ok true
  | .probeModels _ | .probeChat _ => .ok true
  | .createTransactionId => .ok (hexText 'c' 32)

/-- The cluster of two nodes is started, the worker first, and shown as created. -/
theorem managedCluster_owned_twoNodes :
    ∃ h, Settled twoNodes (hexText 'f' 64) h (.started false (some "http://127.0.0.1:8000/v1")
      [⟨"spark-b", hexText 'b' 64⟩, ⟨"spark-a", hexText 'a' 64⟩] (hexText 'f' 64)) := by
  have hends := Ends.of_script obligingExecutor []
    (startAutomaticManagedClusterVllm (fun _ => hexText 'f' 64) twoNodes (hexText 'e' 64))
  have hstarted : ((startAutomaticManagedClusterVllm (fun _ => hexText 'f' 64) twoNodes
      (hexText 'e' 64)).finish (scripted obligingExecutor) []).2 =
        .ok (.started false (some "http://127.0.0.1:8000/v1")
          [⟨"spark-b", hexText 'b' 64⟩, ⟨"spark-a", hexText 'a' 64⟩] (hexText 'f' 64)) := by
    decide +kernel
  obtain ⟨result, hresult, hsettled⟩ :=
    (managedCluster_owned (fun _ => hexText 'f' 64) twoNodes (hexText 'e' 64)).2.2.1 _ _ hends
  rw [hstarted] at hresult
  rw [← Except.ok.inj hresult] at hsettled; exact ⟨_, hsettled⟩

end NemoClaw.ManagedCluster
