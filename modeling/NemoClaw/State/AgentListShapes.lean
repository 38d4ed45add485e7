import NemoClaw.Js.Merge

/- The primary model in the two shapes of the agent list.

Agents are kept as an object under their ids or, in older configurations, as an array
of agents with ids. Both are to be rewritten by one precedence: the agent `main`, or
without one the first default agent that routes on a string.

Correspondence (state/openclaw-config-merge.ts ↔ Lean): `updateMainAgentListModel` keeps its
name; `mainAgentEntry` and `mainAgentIndex` are its searches.

What is proved:
  1. `updateList_primary` — the array is rewritten so, whatever the agents are.
  2. `updateEntries_primary` — the object is rewritten so unless its main agent routes on
     no string and a default agent does.
  3. `updateMainAgentListModel_alike` — the two agree under exactly that condition.
-/
namespace NemoClaw

open Js Js.Json List

/-- The properties of a JSON object. -/
abbrev Fields := List (String × Json)

/-- Whether an agent routes on a model reference of its own. -/
def routesOnModel (entry : Option Json) : Bool :=
  (readString ((entry.bind fun agent => agent.get? "model"))).isSome

/-- The entry that OpenClaw starts with: `main`, or else the first default one. -/
def mainAgentEntry (entries : Fields) : Option String :=
  if routesOnModel (entries.lookup "main") then some "main"
  else (ownKeys entries).find? fun key =>
    Js.isTrue ((entries.lookup key).bind fun agent => agent.get? "default") &&
      routesOnModel (entries.lookup key)

lemma routesOnModel_inv {entry : Option Json} (h : routesOnModel entry) :
    ∃ ref, getBelow entry ["model"] = some (.str ref) := by
  obtain ⟨ref, href⟩ := Option.isSome_iff_exists.mp h
  refine ⟨ref, ?_⟩
  have hmodel := readString_eq_some href
  cases entry with
  | none => cases hmodel
  | some agent =>
  cases agent with
  | obj fields => rw [getBelow_some, getPath_cons, getBelow_nil]; exact hmodel
  | _ => cases hmodel

lemma mainAgentEntry_routes {entries : Fields} {key : String}
    (h : mainAgentEntry entries = some key) : routesOnModel (entries.lookup key) := by
  unfold mainAgentEntry at h
  split at h
  · next hmain =>
    cases h; exact hmain
  · have hfound := List.find?_some h
    simp only [Bool.and_eq_true] at hfound; exact hfound.2

def setModel (primaryModelRef : String) : Json → Json
  | .obj fields => .obj (setOwn fields "model" (.str primaryModelRef))
  | agent => agent

/-- The agent of the list that OpenClaw starts with, if it routes on a model of its own. -/
def mainAgentIndex (list : List Json) : Option Nat :=
  match list.findIdx? fun agent => readString (agent.get? "id") = some "main" with
  | some i => if routesOnModel list[i]? then some i else none
  | none => list.findIdx? fun agent => Js.isTrue (agent.get? "default") && routesOnModel (some agent)

def updateMainAgentListModel (agents : Fields) (primaryModelRef : String) : Fields :=
  match agents.lookup "entries", agents.lookup "list" with
  | some (.obj entries), _ =>
    match mainAgentEntry entries with
    | some key => setOwn agents "entries" (.obj (entries.map fun entry =>
      if entry.1 = key then (key, setModel primaryModelRef entry.2) else entry))
    | none => agents
  | _, some (.arr list) =>
    match mainAgentIndex list with
    | some i => setOwn agents "list" (.arr (list.modify i (setModel primaryModelRef)))
    | none => agents
  | _, _ => agents

inductive IsEntry (key : String) : Json → Json → Prop where
  | agent (fields fields' : Fields) (hid : fields'.lookup "id" = some (.str key))
    (hrest : ∀ k, k ≠ "id" → fields'.lookup k = fields.lookup k) :
    IsEntry key (.obj fields) (.obj fields')
  | other (value : Json) (hother : readObject (some value) = none) : IsEntry key value value

/-- The array holds the entries, in their order. -/
def SameAgents (entries : Fields) (list : List Json) : Prop :=
  Forall₂ (fun key agent => ∃ entry, entries.lookup key = some entry ∧
    IsEntry key entry agent) (ownKeys entries) list

def routesByDefault (agent : Option Json) : Bool :=
  Js.isTrue (agent.bind fun agent => agent.get? "default") && routesOnModel agent

/-- The agent `main` if there is one, otherwise the first default agent that routes. -/
def primaryAgent (entries : Fields) : Option String :=
  if (readObject (entries.lookup "main")).isSome then some "main"
  else (ownKeys entries).find? fun key => routesByDefault (entries.lookup key)

def reroute (primaryModelRef : String) (agent : Json) : Json :=
  if routesOnModel (some agent) then setModel primaryModelRef agent else agent

def rerouteEntries (primaryModelRef : String) (entries : Fields) : Fields :=
  entries.map fun entry => if primaryAgent entries = some entry.1 then
    (entry.1, reroute primaryModelRef entry.2) else entry

/-- The same in an array of the agents. -/
def rerouteList (primaryModelRef : String) (entries : Fields) (list : List Json) : List Json :=
  match primaryAgent entries with
  | some key => list.modify ((ownKeys entries).idxOf key) (reroute primaryModelRef)
  | none => list

lemma IsEntry.get? {key k : String} {entry agent : Json} (h : IsEntry key entry agent)
    (hk : k ≠ "id") : agent.get? k = entry.get? k := by
  cases h with
  | agent fields fields' hid hrest => exact hrest k hk
  | other value hother => rfl

lemma IsEntry.routesOnModel {key : String} {entry agent : Json} (h : IsEntry key entry agent) :
    routesOnModel (some agent) = NemoClaw.routesOnModel (some entry) := by
  unfold NemoClaw.routesOnModel
  rw [Option.bind_some, Option.bind_some, h.get? (by decide)]

lemma IsEntry.routesByDefault {key : String} {entry agent : Json}
    (h : IsEntry key entry agent) :
    routesByDefault (some agent) = NemoClaw.routesByDefault (some entry) := by
  unfold NemoClaw.routesByDefault
  rw [h.routesOnModel, Option.bind_some, Option.bind_some, h.get? (by decide)]

lemma IsEntry.id_eq {key id : String} {entry agent : Json} (h : IsEntry key entry agent) :
    readString (agent.get? "id") = some id ↔
      key = id ∧ (readObject (some entry)).isSome := by
  cases h with
  | agent fields fields' hid hrest =>
    show readString (fields'.lookup "id") = some id ↔ _
    rw [hid, readString_str, Option.some.injEq]; simp
  | other _ hother =>
    rw [hother]
    cases entry with
    | obj fields => cases hother
    | _ => simp [Json.get?, readString]

lemma readObject_of_routes {agent : Option Json} (h : routesOnModel agent) :
    (readObject agent).isSome := by
  cases agent with
  | none => cases h
  | some agent =>
    cases agent with
    | obj fields => rfl
    | _ => cases h

section Places

variable {α β : Type}

lemma findIdx?_forall₂ {R : α → β → Prop} {p : α → Bool} {q : β → Bool} {as : List α}
    {bs : List β} (h : Forall₂ R as bs) (hpq : ∀ a b, a ∈ as → R a b → p a = q b) :
    as.findIdx? p = bs.findIdx? q := by
  induction h with
  | nil => rfl
  | @cons a b as bs hab hrest ih =>
    rw [List.findIdx?_cons, List.findIdx?_cons, hpq a b mem_cons_self hab,
      ih fun a' b' ha' => hpq a' b' (mem_cons_of_mem a ha')]

/-- The place of the first element that has a property is the first place of that element. -/
lemma findIdx?_eq_idxOf [DecidableEq α] (p : α → Bool) (as : List α) :
    as.findIdx? p = (as.find? p).map as.idxOf := by
  induction as with
  | nil => rfl
  | cons a as ih =>
    rw [List.findIdx?_cons, List.find?_cons]
    cases hp : p a with
    | true => simp
    | false =>
    rw [ih]
    cases hfind : as.find? p with
    | none => rfl
    | some b =>
    have hb := List.find?_some hfind
    have hne : a ≠ b := by
      intro heq
      rw [heq, hb] at hp; cases hp
    simp [idxOf_cons_ne as hne]

end Places

section Update

variable {agents entries : Fields} {list : List Json} {ref : String}

lemma modify_reroute (i : ℕ) : list.modify i (reroute ref) =
    if routesOnModel list[i]? then list.modify i (setModel ref) else list := by
  apply ext_getElem?
  intro j
  rw [List.getElem?_modify]
  by_cases hij : i = j
  · subst hij
    simp only [if_true]
    cases hagent : list[i]? with
    | none => rw [if_neg (by simp [routesOnModel, readString]), hagent]; rfl
    | some agent =>
      show some (reroute ref agent) = _
      unfold reroute
      split
      · rw [List.getElem?_modify, hagent]; simp
      · exact hagent.symm
  · simp only [if_neg hij, id_map']
    split
    · rw [List.getElem?_modify]; simp [hij]
    · rfl

lemma main_mem_ownKeys (hmain : (readObject (entries.lookup "main")).isSome) :
    "main" ∈ ownKeys entries := by
  have hindex : arrayIndex? "main" = none :=
    arrayIndex?_eq_none (c := 'm') (by decide) (by decide)
  refine mem_append.mpr (.inr (mem_filter.mpr ⟨?_, decide_eq_true hindex⟩))
  cases hlookup : entries.lookup "main" with
  | none => rw [hlookup] at hmain; cases hmain
  | some value => exact mem_map_of_mem (mem_of_lookup hlookup)

section

variable (hsame : SameAgents entries list)
include hsame

/-- The array's main agent stands at the place of the entry `main`, if that is an object. -/
lemma mainIndex_eq :
    (list.findIdx? fun agent => readString (agent.get? "id") = some "main") =
      if (readObject (entries.lookup "main")).isSome then some ((ownKeys entries).idxOf "main")
      else none := by
  have hplace : ((ownKeys entries).findIdx? fun key =>
      decide (key = "main") && (readObject (entries.lookup "main")).isSome) =
      list.findIdx? fun agent => readString (agent.get? "id") = some "main" := by
    refine findIdx?_forall₂ hsame fun key agent _ hentry => ?_
    obtain ⟨entry, hlookup, hentry⟩ := hentry
    rw [Bool.eq_iff_iff, Bool.and_eq_true, decide_eq_true_eq, decide_eq_true_eq, hentry.id_eq]
    refine and_congr_right fun hkey => ?_
    rw [← hkey, hlookup]
  rw [← hplace, findIdx?_eq_idxOf]
  split
  · next hmain =>
    cases hfind : (ownKeys entries).find? fun key =>
        decide (key = "main") && (readObject (entries.lookup "main")).isSome with
    | none =>
      have hno := List.find?_eq_none.mp hfind "main" (main_mem_ownKeys hmain)
      simp [hmain] at hno
    | some key =>
      have hkey := List.find?_some hfind
      simp only [Bool.and_eq_true, decide_eq_true_eq] at hkey
      rw [Option.map_some, hkey.1]
  · next hmain =>
    rw [List.find?_eq_none.mpr]
    · rfl
    · intro key _; simp [hmain]

/-- The first default agent stands at the same place in either shape. -/
lemma defaultIndex_eq :
    (list.findIdx? fun agent => routesByDefault (some agent)) =
      ((ownKeys entries).find? fun key => routesByDefault (entries.lookup key)).map
        (ownKeys entries).idxOf := by
  rw [← findIdx?_eq_idxOf]
  refine (findIdx?_forall₂ hsame fun key agent _ hentry => ?_).symm
  obtain ⟨entry, hlookup, hentry⟩ := hentry
  rw [hlookup, hentry.routesByDefault]

lemma mainAgentIndex_eq :
    mainAgentIndex list = ((primaryAgent entries).map (ownKeys entries).idxOf).filter
      fun i => routesOnModel list[i]? := by
  unfold mainAgentIndex primaryAgent
  rw [mainIndex_eq hsame]
  by_cases hmain : (readObject (entries.lookup "main")).isSome
  · rw [if_pos hmain, if_pos hmain, Option.map_some, Option.filter_some]
  rw [if_neg hmain, if_neg hmain, ← defaultIndex_eq hsame]
  cases hindex : list.findIdx? fun agent => routesByDefault (some agent) with
  | none => exact hindex
  | some i =>
  obtain ⟨hlt, hroutes, -⟩ := List.findIdx?_eq_some_iff_getElem.mp hindex
  unfold routesByDefault at hroutes
  rw [Bool.and_eq_true] at hroutes
  rw [Option.filter_some, List.getElem?_eq_getElem hlt, if_pos hroutes.2]; exact hindex

theorem updateList_primary (hentries : readObject (agents.lookup "entries") = none)
    (hlist : agents.lookup "list" = some (.arr list)) :
    (updateMainAgentListModel agents ref).lookup "list" =
      some (.arr (rerouteList ref entries list)) := by
  unfold updateMainAgentListModel rerouteList
  rw [hlist]
  split
  · next fields hfields =>
    rw [hfields] at hentries; cases hentries
  · next found hfound _ =>
    cases hfound
    rw [mainAgentIndex_eq hsame]
    cases primaryAgent entries with
    | none => exact hlist
    | some key =>
    rw [Option.map_some, Option.filter_some]
    dsimp only
    rw [modify_reroute]
    by_cases hroutes : routesOnModel list[(ownKeys entries).idxOf key]?
    · rw [if_pos hroutes, if_pos hroutes]
      rw [lookup_setOwn, if_pos rfl]
    · rw [if_neg hroutes, if_neg hroutes]; exact hlist
  · next hno => exact absurd rfl (hno list)

end

/-- A main agent that routes on no string, beside a default agent that does. -/
def MainUnrouted (entries : Fields) : Prop :=
  (readObject (entries.lookup "main")).isSome ∧
    routesOnModel (entries.lookup "main") = false ∧
    ∃ key ∈ ownKeys entries, routesByDefault (entries.lookup key)

lemma updateEntries (hentries : agents.lookup "entries" = some (.obj entries)) :
    (updateMainAgentListModel agents ref).lookup "entries" = some (.obj
      (entries.map fun entry => if mainAgentEntry entries = some entry.1 then
        (entry.1, setModel ref entry.2) else entry)) := by
  unfold updateMainAgentListModel
  rw [hentries]
  dsimp only
  cases hkey : mainAgentEntry entries with
  | none => rw [hentries, map_congr_left (g := id) fun entry _ => by simp, map_id]
  | some key =>
  rw [lookup_setOwn, if_pos rfl]
  refine congrArg some (congrArg Json.obj (map_congr_left fun entry _ => ?_))
  by_cases hname : entry.1 = key
  · rw [if_pos hname, if_pos (congrArg some hname.symm), hname]
  · rw [if_neg hname, if_neg fun heq => hname (Option.some.inj heq).symm]

lemma updateEntries_agree (hkeys : (entries.map (·.1)).Nodup)
    (hmain : mainAgentEntry entries = (primaryAgent entries).filter
      fun key => routesOnModel (entries.lookup key)) :
    (entries.map fun entry => if mainAgentEntry entries = some entry.1 then
      (entry.1, setModel ref entry.2) else entry) = rerouteEntries ref entries := by
  refine map_congr_left fun entry hentry => ?_
  rw [hmain]
  have hlookup : entries.lookup entry.1 = some entry.2 := lookup_of_mem hkeys hentry
  by_cases hprimary : primaryAgent entries = some entry.1
  · rw [hprimary, Option.filter_some, hlookup, if_pos rfl]
    unfold reroute
    split
    · rw [if_pos rfl]
    · rw [if_neg (by simp)]
  · rw [if_neg hprimary, if_neg]
    intro heq; exact hprimary (Option.filter_eq_some_iff.mp heq).1

lemma mainAgentEntry_eq (hrouted : ¬ MainUnrouted entries) :
    mainAgentEntry entries = (primaryAgent entries).filter
      fun key => routesOnModel (entries.lookup key) := by
  unfold mainAgentEntry primaryAgent
  by_cases hroutes : routesOnModel (entries.lookup "main")
  · rw [if_pos hroutes, if_pos (readObject_of_routes hroutes), Option.filter_some, if_pos hroutes]
  rw [if_neg hroutes]
  by_cases hmain : (readObject (entries.lookup "main")).isSome
  · rw [if_pos hmain, Option.filter_some, if_neg hroutes]
    refine List.find?_eq_none.mpr fun key hkey hdefault => ?_
    exact hrouted ⟨hmain, Bool.eq_false_iff.mpr hroutes, key, hkey, hdefault⟩
  · rw [if_neg hmain]
    cases hfind : (ownKeys entries).find? fun key => routesByDefault (entries.lookup key) with
    | none => exact hfind
    | some key =>
    have hdefault := List.find?_some hfind
    unfold routesByDefault at hdefault
    rw [Bool.and_eq_true] at hdefault
    rw [Option.filter_some, if_pos hdefault.2]; exact hfind

lemma lookup_rewritten (chosen : Option String) (rewrite : Json → Json) (key : String) :
    (entries.map fun entry => if chosen = some entry.1 then
      (entry.1, rewrite entry.2) else entry).lookup key =
      (entries.lookup key).map fun agent => if chosen = some key then rewrite agent else agent := by
  rw [← lookup_map_keyed fun key agent => if chosen = some key then rewrite agent else agent]
  congr 1
  refine map_congr_left fun entry _ => ?_
  split <;> rfl

/-- Unless the main agent routes on no string and a default agent does, the object is
rewritten as asked; otherwise some reference is given to another agent. -/
theorem updateEntries_primary (hkeys : (entries.map (·.1)).Nodup)
    (hentries : agents.lookup "entries" = some (.obj entries)) :
    (∀ ref, (updateMainAgentListModel agents ref).lookup "entries" =
      some (.obj (rerouteEntries ref entries))) ↔ ¬ MainUnrouted entries := by
  constructor
  · intro hall ⟨hmain, hunrouted, key, hkey, hdefault⟩
    have hroute : routesOnModel (entries.lookup "main") ≠ true := by
      rw [hunrouted]; decide
    cases hchosen : mainAgentEntry entries with
    | none =>
      unfold mainAgentEntry at hchosen
      rw [if_neg hroute] at hchosen; exact List.find?_eq_none.mp hchosen key hkey hdefault
    | some chosen =>
      have hroutes := mainAgentEntry_routes hchosen
      have hother : chosen ≠ "main" := by
        intro heq
        rw [heq] at hroutes; exact hroute hroutes
      cases hagent : entries.lookup chosen with
      | none => rw [hagent] at hroutes; cases hroutes
      | some agent =>
        rw [hagent] at hroutes
        obtain ⟨model, hmodel⟩ := routesOnModel_inv hroutes
        -- A reference that the agent does not have yet.
        have hrewritten := hall (model ++ "x")
        rw [updateEntries hentries] at hrewritten
        have hequal := Json.obj.inj (Option.some.inj hrewritten)
        have hleft := congrArg (List.lookup chosen) hequal
        have hprimary : primaryAgent entries = some "main" := if_pos hmain
        rw [rerouteEntries, hprimary, lookup_rewritten, lookup_rewritten, hagent, Option.map_some,
          Option.map_some, if_pos hchosen, if_neg fun heq => hother (Option.some.inj heq).symm]
          at hleft
        cases agent with
        | obj fields =>
          have hmodels := congrArg (fun agent : Json => agent.get? "model") (Option.some.inj hleft)
          have hnew : some (Json.str (model ++ "x")) = fields.lookup "model" := by
            rw [← show (setOwn fields "model" (.str (model ++ "x"))).lookup "model" =
              some (.str (model ++ "x")) from by rw [lookup_setOwn, if_pos rfl]]
            exact hmodels
          have hold : fields.lookup "model" = some (.str model) := by
            rw [getBelow_some, getPath_cons, getBelow_nil] at hmodel; exact hmodel
          rw [hold] at hnew
          have hlength := congrArg String.length (Json.str.inj (Option.some.inj hnew))
          have hone : "x".length = 1 := rfl
          rw [String.length_append] at hlength; omega
        | _ => cases hroutes
  · intro hrouted ref
    rw [updateEntries hentries, updateEntries_agree hkeys (mainAgentEntry_eq hrouted)]

end Update

/-- Both shapes are rewritten as asked, whatever the reference: the object and the array of
the same agents. -/
def UpdatedAlike (agents agents' entries : Fields) (list : List Json) : Prop :=
  ∀ ref, (updateMainAgentListModel agents ref).lookup "entries" =
      some (.obj (rerouteEntries ref entries)) ∧
    (updateMainAgentListModel agents' ref).lookup "list" =
      some (.arr (rerouteList ref entries list))

/-- The two shapes of one list of agents are updated alike, the primary agent rerouted and
every other left as it is, unless the agent `main` routes on no string and a default agent
does. -/
theorem updateMainAgentListModel_alike (agents agents' entries : Fields) (list : List Json)
    (hkeys : (entries.map (·.1)).Nodup) (hsame : SameAgents entries list)
    (hentries : agents.lookup "entries" = some (.obj entries))
    (hunkeyed : readObject (agents'.lookup "entries") = none)
    (hlist : agents'.lookup "list" = some (.arr list)) :
    UpdatedAlike agents agents' entries list ↔ ¬ MainUnrouted entries := by
  rw [← updateEntries_primary hkeys hentries]
  constructor
  · intro halike ref; exact (halike ref).1
  · intro hall ref; exact ⟨hall ref, updateList_primary hsame hunkeyed hlist⟩

/-- A researcher by default, beside a main agent. -/
def researcher : Fields := [("default", .bool true), ("model", .str "inference/old")]

lemma ownKeys_main_researcher (main agent : Json) :
    ownKeys [("main", main), ("researcher", agent)] = ["main", "researcher"] := by
  refine ownKeys_of_names fun key hkey => ?_
  rcases mem_cons.mp hkey with rfl | hkey
  · show arrayIndex? "main" = none
    exact arrayIndex?_eq_none (c := 'm') (by decide) (by decide)
  · rw [mem_singleton.mp hkey]
    show arrayIndex? "researcher" = none
    exact arrayIndex?_eq_none (c := 'r') (by decide) (by decide)

/-- The main agent routes on a string: both shapes give it the new one. -/
theorem updateMainAgentListModel_alike_main :
    UpdatedAlike
      [("entries", .obj [("main", .obj [("model", .str "inference/old")]),
        ("researcher", .obj researcher)])]
      [("list", .arr [.obj [("id", .str "main"), ("model", .str "inference/old")],
        .obj (("id", .str "researcher") :: researcher)])]
      [("main", .obj [("model", .str "inference/old")]), ("researcher", .obj researcher)]
      [.obj [("id", .str "main"), ("model", .str "inference/old")],
        .obj (("id", .str "researcher") :: researcher)] := by
  refine (updateMainAgentListModel_alike _ _ _ _ (by decide) ?_ rfl rfl rfl).mpr ?_
  · unfold SameAgents
    rw [ownKeys_main_researcher]
    refine .cons ⟨_, rfl, .agent _ _ rfl ?_⟩ (.cons ⟨_, rfl, .agent _ _ rfl ?_⟩ .nil)
    · intro k hk
      rw [lookup_cons_if, if_neg hk]
    · intro k hk
      rw [lookup_cons_if, if_neg hk]
  · intro hunrouted; exact absurd hunrouted.2.1 (by decide)

/-- The main agent has an object for its model, and the researcher is a default agent: kept
under ids, the researcher is given the new reference; in an array nobody is. -/
theorem updateMainAgentListModel_unrouted :
    (updateMainAgentListModel [("entries", .obj [("main", .obj [("model", .obj [])]),
        ("researcher", .obj researcher)])] "inference/new").lookup "entries" =
      some (.obj [("main", .obj [("model", .obj [])]),
        ("researcher", .obj [("default", .bool true), ("model", .str "inference/new")])]) ∧
    updateMainAgentListModel [("list", .arr [.obj [("id", .str "main"), ("model", .obj [])],
        .obj (("id", .str "researcher") :: researcher)])] "inference/new" =
      [("list", .arr [.obj [("id", .str "main"), ("model", .obj [])],
        .obj (("id", .str "researcher") :: researcher)])] := by
  refine ⟨?_, rfl⟩
  have hchosen : mainAgentEntry [("main", .obj [("model", .obj [])]),
      ("researcher", .obj researcher)] = some "researcher" := by
    unfold mainAgentEntry
    rw [if_neg (by decide), ownKeys_main_researcher]; rfl
  rw [updateEntries rfl, hchosen]; rfl

end NemoClaw
