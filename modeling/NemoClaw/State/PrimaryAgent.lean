import NemoClaw.Js.DeepEqual
import NemoClaw.State.AgentListShapes

/- The model of the primary agent, after a restore and after an inference switch.

Two commands give the agent that OpenClaw starts with a new model reference: the merge of
a restored configuration, and the switch to another inference route. Each has its own
copy of the rewrite, and the restore's says that it mirrors the other.

Correspondence (actions/inference-set.ts ↔ Lean): `updatePrimaryAgentListModel` keeps its
name, and its loop over the array is `primaryAgentIndex`. The entries under ids are
searched by the same code as in state/openclaw-config-merge.ts, `mainAgentEntry`.

What is proved: `updateAgentListModel_agree`, that the copies give the same agents unless
the first default agent of an array routes on no string and a later one does.
-/
namespace NemoClaw

open Js Js.Json

/-- The agent of the array that the switch rewrites: `main`, or else the first default one,
if that agent routes on a model of its own. -/
def primaryAgentIndex (list : List Json) : Option Nat :=
  match list.findIdx? fun agent => readString (agent.get? "id") = some "main" with
  | some i => if routesOnModel list[i]? then some i else none
  | none =>
    match list.findIdx? fun agent => Js.isTrue (agent.get? "default") with
    | some i => if routesOnModel list[i]? then some i else none
    | none => none

def updatePrimaryAgentListModel (agents : Fields) (primaryModelRef : String) : Fields :=
  match agents.lookup "entries", agents.lookup "list" with
  | some (.obj entries), _ =>
    match mainAgentEntry entries with
    | some key => setOwn agents "entries" (.obj (entries.map fun entry =>
      if entry.1 = key then (key, setModel primaryModelRef entry.2) else entry))
    | none => agents
  | _, some (.arr list) =>
    match primaryAgentIndex list with
    | some i => setOwn agents "list" (.arr (list.modify i (setModel primaryModelRef)))
    | none => agents
  | _, _ => agents

structure LaterDefault (list : List Json) (primaryModelRef : String) : Prop where
  no_main : ∀ agent ∈ list, readString (agent.get? "id") ≠ some "main"
  first : ∃ agent, list.find? (fun agent => Js.isTrue (agent.get? "default")) = some agent ∧
    routesOnModel (some agent) = false
  later : ∃ agent, list.find? (fun agent => routesByDefault (some agent)) = some agent ∧
    readString (agent.get? "model") ≠ some primaryModelRef

/-- The agents are kept in such an array. -/
def HasLaterDefault (agents : Fields) (primaryModelRef : String) : Prop :=
  readObject (agents.lookup "entries") = none ∧
    ∃ list, agents.lookup "list" = some (.arr list) ∧ LaterDefault list primaryModelRef

section Array

variable {list : List Json} {ref : String}

/-- The first element with two properties is the first with one of them, if that has both. -/
lemma findIdx?_and_of_first {α : Type} {p q : α → Bool} {as : List α} {i : ℕ} {a : α}
    (hfirst : as.findIdx? p = some i) (ha : as[i]? = some a) (hq : q a) :
    as.findIdx? (fun a => p a && q a) = some i := by
  obtain ⟨hlt, hp, hbefore⟩ := List.findIdx?_eq_some_iff_getElem.mp hfirst
  rw [List.getElem?_eq_getElem hlt, Option.some.injEq] at ha
  refine List.findIdx?_eq_some_iff_getElem.mpr ⟨hlt, ?_, ?_⟩
  · rw [hp, ha, hq]; rfl
  · intro j hj
    rw [Bool.and_eq_true]; exact fun hboth => hbefore j hj hboth.1

lemma getElem?_of_findIdx? {α : Type} {p : α → Bool} {as : List α} {i : ℕ}
    (hfirst : as.findIdx? p = some i) :
    ∃ a, as[i]? = some a ∧ as.find? p = some a := by
  induction as generalizing i with
  | nil => cases hfirst
  | cons a as ih =>
    rw [List.findIdx?_cons] at hfirst
    rw [List.find?_cons]
    cases hp : p a with
    | true =>
      rw [hp, if_pos rfl] at hfirst
      cases hfirst; exact ⟨a, rfl, rfl⟩
    | false =>
      rw [hp, if_neg (by decide)] at hfirst
      obtain ⟨j, hj, rfl⟩ := Option.map_eq_some_iff.mp hfirst
      obtain ⟨b, hb, hfind⟩ := ih hj
      exact ⟨b, by rw [List.getElem?_cons_succ, hb], hfind⟩

lemma mainAgentIndex_eq_primary
    (hfirst : (∃ agent ∈ list, readString (agent.get? "id") = some "main") ∨
      ∀ agent, list.find? (fun agent => Js.isTrue (agent.get? "default")) = some agent →
        routesOnModel (some agent)) :
    mainAgentIndex list = primaryAgentIndex list := by
  unfold mainAgentIndex primaryAgentIndex
  cases hmain : list.findIdx? fun agent => readString (agent.get? "id") = some "main" with
  | some i => rfl
  | none =>
  have hroutes : ∀ agent,
      list.find? (fun agent => Js.isTrue (agent.get? "default")) = some agent →
      routesOnModel (some agent) := by
    refine hfirst.resolve_left ?_
    rintro ⟨agent, hagent, hid⟩
    have hno := List.findIdx?_eq_none_iff.mp hmain agent hagent
    rw [hid] at hno; simp at hno
  cases hdefault : list.findIdx? fun agent => Js.isTrue (agent.get? "default") with
  | none =>
    refine List.findIdx?_eq_none_iff.mpr fun agent hagent => ?_
    rw [List.findIdx?_eq_none_iff.mp hdefault agent hagent]; rfl
  | some i =>
    obtain ⟨agent, hagent, hfind⟩ := getElem?_of_findIdx? hdefault
    rw [findIdx?_and_of_first hdefault hagent (hroutes agent hfind)]
    dsimp only
    rw [hagent, if_pos (hroutes agent hfind)]

lemma mainAgentIndex_no_main
    (hmain : ∀ agent ∈ list, readString (agent.get? "id") ≠ some "main") :
    mainAgentIndex list = list.findIdx? fun agent => routesByDefault (some agent) := by
  unfold mainAgentIndex
  rw [List.findIdx?_eq_none_iff.mpr fun agent hagent => decide_eq_false (hmain agent hagent)]
  rfl

lemma primaryAgentIndex_no_route
    (hmain : ∀ agent ∈ list, readString (agent.get? "id") ≠ some "main") {agent : Json}
    (hfirst : list.find? (fun agent => Js.isTrue (agent.get? "default")) = some agent)
    (hroutes : routesOnModel (some agent) = false) : primaryAgentIndex list = none := by
  unfold primaryAgentIndex
  rw [List.findIdx?_eq_none_iff.mpr fun agent hagent => decide_eq_false (hmain agent hagent)]
  cases hdefault : list.findIdx? fun agent => Js.isTrue (agent.get? "default") with
  | none => rfl
  | some i =>
  obtain ⟨agent', hagent', hfind⟩ := getElem?_of_findIdx? hdefault
  rw [hfirst] at hfind
  cases hfind
  dsimp only
  rw [hagent', hroutes, if_neg (by decide)]

lemma setModel_eq_self_iff {agent : Json} (hkeyed : Keyed agent)
    (hroutes : routesOnModel (some agent)) :
    setModel ref agent = agent ↔ readString (agent.get? "model") = some ref := by
  cases agent with
  | obj fields =>
    obtain ⟨model, hmodel⟩ := routesOnModel_inv hroutes
    have hfield : fields.lookup "model" = some (.str model) := by
      rw [getBelow_some, getPath_cons, getBelow_nil] at hmodel; exact hmodel
    rw [get?_obj, hfield, readString_str]
    constructor
    · intro hsame
      have hread := congrArg (List.lookup "model") (Json.obj.inj hsame)
      rw [lookup_setOwn, if_pos rfl, hfield] at hread
      exact congrArg some (Json.str.inj (Option.some.inj hread)).symm
    · intro hmodel'
      rw [Option.some.inj hmodel'] at hfield
      exact congrArg Json.obj (setOwn_same hkeyed.keys_nodup hfield)
  | _ => cases hroutes

lemma modify_eq_self_iff {α : Type} {as : List α} {i : ℕ} {a : α} {f : α → α}
    (ha : as[i]? = some a) : as.modify i f = as ↔ f a = a := by
  constructor
  · intro hsame
    have hread := congrArg (fun as : List α => as[i]?) hsame
    simp only [List.getElem?_modify, ha, if_true] at hread; exact Option.some.inj hread
  · intro hfix
    apply List.ext_getElem?
    intro j
    rw [List.getElem?_modify]
    by_cases hj : i = j
    · subst hj; simp [ha, hfix]
    · simp [hj]

end Array

section Agree

variable {agents : Fields} {list : List Json} {ref : String}

lemma updateMainAgentListModel_list (hentries : readObject (agents.lookup "entries") = none)
    (hlist : agents.lookup "list" = some (.arr list)) :
    updateMainAgentListModel agents ref = match mainAgentIndex list with
      | some i => setOwn agents "list" (.arr (list.modify i (setModel ref)))
      | none => agents := by
  unfold updateMainAgentListModel
  rw [hlist]
  split
  · next entries hobject =>
    rw [hobject] at hentries; cases hentries
  · next found hfound _ =>
    cases hfound; rfl
  · next hno => exact absurd rfl (hno list)

lemma updatePrimaryAgentListModel_list
    (hentries : readObject (agents.lookup "entries") = none)
    (hlist : agents.lookup "list" = some (.arr list)) :
    updatePrimaryAgentListModel agents ref = match primaryAgentIndex list with
      | some i => setOwn agents "list" (.arr (list.modify i (setModel ref)))
      | none => agents := by
  unfold updatePrimaryAgentListModel
  rw [hlist]
  split
  · next entries hobject =>
    rw [hobject] at hentries; cases hentries
  · next found hfound _ =>
    cases hfound; rfl
  · next hno => exact absurd rfl (hno list)

/-- Apart from an array in which they choose differently, the copies are one. -/
lemma updateAgentListModel_same_index
    (hindex : readObject (agents.lookup "entries") = none →
      ∀ list, agents.lookup "list" = some (.arr list) →
        mainAgentIndex list = primaryAgentIndex list) :
    updateMainAgentListModel agents ref = updatePrimaryAgentListModel agents ref := by
  by_cases hentries : readObject (agents.lookup "entries") = none
  · by_cases hlist : ∃ list, agents.lookup "list" = some (.arr list)
    · obtain ⟨list, hlist⟩ := hlist
      rw [updateMainAgentListModel_list hentries hlist,
        updatePrimaryAgentListModel_list hentries hlist, hindex hentries list hlist]
    · have hmain : updateMainAgentListModel agents ref = agents := by
        unfold updateMainAgentListModel
        split
        · next entries hobject =>
          rw [hobject] at hentries; cases hentries
        · next list hfound _ => exact absurd ⟨list, hfound⟩ hlist
        · rfl
      rw [hmain, updatePrimaryAgentListModel]
      split
      · next entries hobject =>
        rw [hobject] at hentries; cases hentries
      · next list hfound _ => exact absurd ⟨list, hfound⟩ hlist
      · rfl
  · obtain ⟨entries, hobject⟩ : ∃ entries, agents.lookup "entries" = some (.obj entries) := by
      cases hvalue : agents.lookup "entries" with
      | none => rw [hvalue] at hentries; exact absurd rfl hentries
      | some value =>
        rw [hvalue] at hentries
        cases value with
        | obj entries => exact ⟨entries, rfl⟩
        | _ => exact absurd rfl hentries
    unfold updateMainAgentListModel updatePrimaryAgentListModel
    generalize agents.lookup "entries" = value at hobject
    subst hobject; rfl

lemma updateAgentListModel_behind (hkeyed : Keyed (.obj agents))
    (hentries : readObject (agents.lookup "entries") = none)
    (hlist : agents.lookup "list" = some (.arr list))
    (hmain : ∀ agent ∈ list, readString (agent.get? "id") ≠ some "main") {first : Json}
    (hfirst : list.find? (fun agent => Js.isTrue (agent.get? "default")) = some first)
    (hroutes : routesOnModel (some first) = false) :
    updateMainAgentListModel agents ref = updatePrimaryAgentListModel agents ref ↔
      ∀ agent, list.find? (fun agent => routesByDefault (some agent)) = some agent →
        readString (agent.get? "model") = some ref := by
  rw [updateMainAgentListModel_list hentries hlist,
    updatePrimaryAgentListModel_list hentries hlist, mainAgentIndex_no_main hmain,
    primaryAgentIndex_no_route hmain hfirst hroutes]
  cases hlater : list.findIdx? fun agent => routesByDefault (some agent) with
  | none =>
    refine iff_of_true rfl fun agent hagent => ?_
    have hno := List.findIdx?_eq_none_iff.mp hlater agent (List.mem_of_find?_eq_some hagent)
    rw [List.find?_some hagent] at hno; cases hno
  | some i =>
    obtain ⟨agent, hagent, hfind⟩ := getElem?_of_findIdx? hlater
    have hdefault := List.find?_some hfind
    unfold routesByDefault at hdefault
    rw [Bool.and_eq_true] at hdefault
    have hkeyedAgent : Keyed agent :=
      (hkeyed.lookup hlist).element (List.mem_of_find?_eq_some hfind)
    have hset : setOwn agents "list" (.arr (list.modify i (setModel ref))) = agents ↔
        list.modify i (setModel ref) = list := by
      constructor
      · intro hsame
        have hread := congrArg (List.lookup "list") hsame
        rw [lookup_setOwn, if_pos rfl, hlist] at hread
        exact Json.arr.inj (Option.some.inj hread)
      · intro hsame
        rw [hsame]; exact setOwn_same hkeyed.keys_nodup hlist
    rw [hset, modify_eq_self_iff hagent, setModel_eq_self_iff hkeyedAgent hdefault.2, hfind]
    constructor
    · intro hmodel other hother
      cases hother; exact hmodel
    · intro hall; exact hall agent rfl

end Agree

/-- The two copies of the rewrite give the same agents unless an array of agents has a later
default one. -/
theorem updateAgentListModel_agree (agents : Fields) (primaryModelRef : String)
    (hkeyed : Keyed (.obj agents)) :
    updateMainAgentListModel agents primaryModelRef =
        updatePrimaryAgentListModel agents primaryModelRef ↔
      ¬ HasLaterDefault agents primaryModelRef := by
  constructor
  · rintro hsame ⟨hentries, list, hlist, hmain, ⟨first, hfirst, hroutes⟩, agent, hagent, hmodel⟩
    exact hmodel ((updateAgentListModel_behind hkeyed hentries hlist hmain hfirst hroutes).mp
      hsame agent hagent)
  · intro hno
    by_cases hbehind : ∃ list first, readObject (agents.lookup "entries") = none ∧
        agents.lookup "list" = some (.arr list) ∧
        (∀ agent ∈ list, readString (agent.get? "id") ≠ some "main") ∧
        list.find? (fun agent => Js.isTrue (agent.get? "default")) = some first ∧
        routesOnModel (some first) = false
    · obtain ⟨list, first, hentries, hlist, hmain, hfirst, hroutes⟩ := hbehind
      refine (updateAgentListModel_behind hkeyed hentries hlist hmain hfirst hroutes).mpr ?_
      intro agent hagent
      by_contra hmodel
      exact hno ⟨hentries, list, hlist, hmain, ⟨first, hfirst, hroutes⟩, agent, hagent, hmodel⟩
    · refine updateAgentListModel_same_index fun hentries list hlist => ?_
      apply mainAgentIndex_eq_primary
      by_contra hchoice
      rw [not_or] at hchoice
      obtain ⟨hmain, hfirst⟩ := hchoice
      push Not at hmain hfirst
      obtain ⟨first, hfirst, hroutes⟩ := hfirst
      exact hbehind ⟨list, first, hentries, hlist, hmain, hfirst, Bool.eq_false_iff.mpr hroutes⟩

/-- The first default agent routes on a string: both rewrite it. -/
theorem updateAgentListModel_agree_first :
    updateMainAgentListModel [("list", .arr [.obj researcher, .obj researcher])] "inference/new" =
      updatePrimaryAgentListModel [("list", .arr [.obj researcher, .obj researcher])]
        "inference/new" := by
  refine (updateAgentListModel_agree _ _ ?_).mpr ?_
  · simp [researcher, Keyed.arr]
  rintro ⟨-, list, hlist, hlater⟩
  cases hlist
  obtain ⟨agent, hagent, hroutes⟩ := hlater.first
  cases hagent; cases hroutes

/-- The researcher behind a default agent without a model of its own. -/
def behindUnrouted (model : String) : Fields :=
  [("list", .arr [.obj [("default", .bool true)],
    .obj [("default", .bool true), ("model", .str model)]])]

/-- The restore gives the researcher the new reference, the switch gives it to nobody. -/
theorem updateAgentListModel_disagree :
    updateMainAgentListModel (behindUnrouted "inference/old") "inference/new" =
        behindUnrouted "inference/new" ∧
      updatePrimaryAgentListModel (behindUnrouted "inference/old") "inference/new" =
        behindUnrouted "inference/old" ∧
      updateMainAgentListModel (behindUnrouted "inference/old") "inference/new" ≠
        updatePrimaryAgentListModel (behindUnrouted "inference/old") "inference/new" := by
  refine ⟨rfl, rfl, ?_⟩
  show behindUnrouted "inference/new" ≠ behindUnrouted "inference/old"
  simp [behindUnrouted]

end NemoClaw
