import NemoClaw.Registry.RowSaves

/- The operations that name one row, on a name that has none.

`setDefault`, `updateSandbox` and `reserveSandboxInferenceRoute` ask for the row with a
plain property access, which also finds what every object inherits; the default is
checked against the own keys of the map, but only when the registry is saved.

What is proved:
  1. `perform_absent` — a name that nothing inherits is refused, or gets a row of its own.
  2. `update_inherited` — a name that every object inherits is updated with success,
     though it has no row.
  3. `rowOps_absent` — so the operations leave rows and default alone exactly for the
     names of the first kind, as far as the registry can be saved at all.
  4. `rowOps_constructor` — every object has a constructor.
-/
namespace NemoClaw

open Js Js.Json Onboard SandboxEntry List Option

inductive RowOp where
  | setDefault
  | update (updates : List (String × Option Json))
  | reserveInferenceRoute (route : SandboxEntry)

def RowOp.perform (api : RowFieldApi) (name : String) : RowOp → Call ConfigFile Bool
  | setDefault => NemoClaw.setDefault api name
  | update updates => updateSandbox api name updates
  | reserveInferenceRoute route => reserveSandboxInferenceRoute api name route

/-- Fail, and leave the file alone; or save the rows and the default as any save would, with one
new row of that name. -/
inductive LeavesRows (api : RowFieldApi) (file : ConfigFile) (data : SandboxRegistry)
    (name : String) : Except String Bool → ConfigFile → Prop where
  | failed (outcome : Except String Bool) (hfailed : outcome ≠ .ok true) :
    LeavesRows api file data name outcome file
  | created (kept : SandboxRegistry) (row : SandboxEntry)
    (hkept : serializeRegistryForDisk api data = .ok kept)
    (hname : row.lookup "name" = some (.str name)) :
    LeavesRows api file data name (.ok true)
      (.parsed { kept with sandboxes := kept.sandboxes ++ [(name, row)] }.toJson)

lemma lookup_assign (row : SandboxEntry) {updates : List (String × Option Json)} {key : String}
    (hkey : ∀ update ∈ updates, update.1 ≠ key) :
    (row.assign updates).lookup key = row.lookup key := by
  unfold SandboxEntry.assign
  induction updates generalizing row with
  | nil => rfl
  | cons update updates ih =>
    rw [foldl_cons, ih _ fun u hu => hkey u (mem_cons_of_mem update hu)]
    have hne := hkey update mem_cons_self
    cases hvalue : update.2 with
    | none =>
      simp only
      rw [lookup_deleteKey, if_neg (Ne.symm hne)]
    | some value =>
      simp only
      unfold assignKey
      split
      · rfl
      · rw [lookup_setOwn, if_neg (Ne.symm hne)]

lemma reservedRow_name (name : String) (route : SandboxEntry) :
    (reservedRow name none route).lookup "name" = some (.str name) := by
  unfold reservedRow
  simp only
  rw [lookup_assign]
  · rfl
  intro update hupdate hname
  have hnot : "name" ∉ ["pendingRouteReservation", "reservationSessionId", "provider", "model",
    "endpointUrl", "endpointSource", "credentialEnv", "preferredInferenceApi", "gatewayName",
    "gatewayPort"] := by decide
  exact hnot (hname ▸ mem_map_of_mem hupdate)

lemma reservedRow_pending (name : String) (existing : Option SandboxEntry)
    (route : SandboxEntry) : (reservedRow name existing route).isPendingRouteReservation := by
  unfold reservedRow isPendingRouteReservation
  simp only
  show Js.isTrue ((SandboxEntry.assign (assignKey _ "pendingRouteReservation" (.bool true))
    _).lookup "pendingRouteReservation")
  rw [lookup_assign]
  · unfold assignKey
    rw [if_neg (by decide), lookup_setOwn, if_pos rfl]; rfl
  · intro update hupdate hname
    have hnot : "pendingRouteReservation" ∉ ["reservationSessionId", "provider", "model",
      "endpointUrl", "endpointSource", "credentialEnv", "preferredInferenceApi", "gatewayName",
      "gatewayPort"] := by decide
    exact hnot (hname ▸ mem_map_of_mem hupdate)

/-! ## One more row in the file -/

lemma retainedDefaultSandbox_reserved {rows : List (String × SandboxEntry)} {name : String}
    {row : SandboxEntry} (hpending : row.isPendingRouteReservation) (d : Option String) :
    retainedDefaultSandbox d (rows ++ [(name, row)]) = retainedDefaultSandbox d rows := by
  unfold retainedDefaultSandbox
  congr 1
  funext n
  rw [lookup_append]
  cases hrow : rows.lookup n with
  | some entry => rfl
  | none =>
  rw [none_or, lookup_cons_if]
  split
  · rw [any_some, hpending]; rfl
  · rfl

lemma RowsBy.append_inv {f : SandboxEntry → Except String SandboxEntry}
    {rows last rows' : List (String × SandboxEntry)} (h : RowsBy f (rows ++ last) rows') :
    ∃ first rest, RowsBy f rows first ∧ RowsBy f last rest ∧ rows' = first ++ rest := by
  induction rows generalizing rows' with
  | nil => exact ⟨[], rows', .nil, h, rfl⟩
  | cons row rows ih =>
    cases h with
    | cons hrow hrows =>
      obtain ⟨first, rest, hfirst, hrest, rfl⟩ := ih hrows
      exact ⟨_ :: first, rest, .cons hrow hfirst, hrest, rfl⟩

lemma serialize_reserved {api : RowFieldApi} {data written : SandboxRegistry} {name : String}
    {row : SandboxEntry} (hpending : row.isPendingRouteReservation)
    (h : serializeRegistryForDisk api { data with sandboxes := data.sandboxes ++ [(name, row)] } =
      .ok written) :
    ∃ kept saved, serializeRegistryForDisk api data = .ok kept ∧
      serializeSandboxEntryForDisk api row = .ok saved ∧
      written = { kept with sandboxes := kept.sandboxes ++ [(name, saved)] } := by
  obtain ⟨sandboxes, hrows, hrest⟩ := except_bind_inv h
  obtain ⟨revision, hrevision, hwritten⟩ := except_bind_inv hrest
  have hwritten := Except.ok.inj hwritten
  clear hrest h
  obtain ⟨rows, last, hfirst, hlast, rfl⟩ := RowsBy.append_inv (mapM_rows_iff.mp hrows)
  cases hlast with
  | @cons _ last _ _ hsaved hnil =>
    cases hnil
    obtain ⟨key, saved⟩ := last
    obtain ⟨hname, hsaved⟩ := hsaved
    have hkey : key = name := hname.symm
    rw [hkey] at hrevision hwritten
    have hkeeps : retainedDefaultSandbox data.defaultSandbox (rows ++ [(name, saved)]) =
        retainedDefaultSandbox data.defaultSandbox rows :=
      retainedDefaultSandbox_reserved ((pending_of_serialize hsaved).trans hpending) _
    rw [← hwritten]
    simp only [hkeeps] at hrevision ⊢
    exact ⟨_, saved, except_bind_ok (mapM_rows_iff.mpr hfirst) (except_bind_ok hrevision rfl),
      hsaved, rfl⟩

section Absent

variable {api : RowFieldApi} {file : ConfigFile} {data : SandboxRegistry} {name : String}

lemma row_absent (habsent : data.sandboxes.lookup name = none)
    (hname : name ∉ objectPrototypeKeys) : data.row name = none := by
  unfold SandboxRegistry.row getInherited
  rw [habsent, if_neg hname]; rfl

lemma row_inherited (habsent : data.sandboxes.lookup name = none)
    (hname : name ∈ objectPrototypeKeys) : data.row name = some [] := by
  unfold SandboxRegistry.row getInherited
  rw [habsent, if_pos hname]; rfl

lemma leavesRows_refused {change : SandboxRegistry → Except String
      (Option SandboxRegistry × Bool)} (hload : loadRegistry api file = .ok data)
    (hchange : change data = .ok (none, false)) :
    LeavesRows api file data name ((changeRegistry api change).exec file).1
      ((changeRegistry api change).exec file).2 := by
  unfold changeRegistry
  rw [Call.exec_bind_ok (Call.exec_get file), hload,
    Call.exec_bind_ok (Call.exec_ofExcept_ok data file), hchange,
    Call.exec_bind_ok (Call.exec_ofExcept_ok (none, false) file)]
  exact .failed (.ok false) (by decide)

lemma leavesRows_unsaved {change : SandboxRegistry → Except String
      (Option SandboxRegistry × Bool)} {e : String}
    (hfailed : ((changeRegistry api change).exec file).1 = .error e) :
    LeavesRows api file data name ((changeRegistry api change).exec file).1
      ((changeRegistry api change).exec file).2 := by
  rw [changeRegistry_atomic api change file e hfailed]
  exact .failed _ (by rw [hfailed]; intro h; cases h)

theorem perform_absent (hload : loadRegistry api file = .ok data)
    (habsent : data.sandboxes.lookup name = none) (hname : name ∉ objectPrototypeKeys)
    (op : RowOp) : LeavesRows api file data name ((op.perform api name).exec file).1
      ((op.perform api name).exec file).2 := by
  have hrow := row_absent habsent hname
  cases op with
  | setDefault =>
    refine leavesRows_refused hload ?_
    simp only [hrow, any_none, Bool.false_eq_true, if_false, setDefaultInRegistry]
    rfl
  | update updates =>
    refine leavesRows_refused hload ?_
    simp only [hrow, isNone_none, if_true]
  | reserveInferenceRoute route =>
    have hproto : name ≠ "__proto__" := by
      intro h; exact hname (h ▸ by decide)
    cases houtcome : (reserveSandboxInferenceRoute api name route).exec file with
    | mk outcome after =>
      show LeavesRows api file data name
        ((reserveSandboxInferenceRoute api name route).exec file).1
        ((reserveSandboxInferenceRoute api name route).exec file).2
      cases outcome with
      | error e => exact leavesRows_unsaved (e := e) (by rw [← reserveSandboxInferenceRoute, houtcome])
      | ok answer =>
      obtain ⟨data', next, hload', hchange, hsaved⟩ := changeRegistry_ok houtcome
      rw [hload] at hload'
      cases hload'
      obtain ⟨hnext, hanswer⟩ := Prod.mk.inj (Except.ok.inj hchange)
      obtain ⟨written, hwritten, hafter⟩ := hsaved _ hnext.symm
      rw [hrow, assignKey, if_neg hproto, setOwn, habsent] at hwritten
      obtain ⟨kept, saved, hkept, hsaved, rfl⟩ :=
        serialize_reserved (reservedRow_pending name none route) hwritten
      rw [houtcome, ← hanswer, hafter]
      refine .created kept saved hkept ?_
      rw [name_of_serialize hsaved, reservedRow_name]

lemma map_absent (habsent : data.sandboxes.lookup name = none)
    (updates : List (String × Option Json)) :
    (data.sandboxes.map fun row =>
      if row.1 = name then (row.1, row.2.assign updates) else row) = data.sandboxes := by
  refine map_congr_left (g := id) (fun row hrow => ?_) |>.trans (map_id _)
  rw [if_neg]
  · rfl
  · intro hname
    have hnone := lookup_eq_none_iff.mp habsent row hrow
    simp [hname] at hnone

lemma update_change (habsent : data.sandboxes.lookup name = none)
    (hname : name ∈ objectPrototypeKeys) {updates : List (String × Option Json)}
    (hnamed : (updates.lookup "name").any (fun v => readString v ≠ some name) = false) :
    (if (data.row name).isNone then Except.ok (none, false)
      else if (updates.lookup "name").any (fun v => readString v ≠ some name) then
        .ok (none, false)
      else .ok (some { data with sandboxes := data.sandboxes.map fun row =>
        if row.1 = name then (row.1, row.2.assign updates) else row }, true) :
          Except String (Option SandboxRegistry × Bool)) = .ok (some data, true) := by
  rw [row_inherited habsent hname, map_absent habsent, hnamed]; rfl

theorem update_inherited (hload : loadRegistry api file = .ok data)
    (habsent : data.sandboxes.lookup name = none) (hname : name ∈ objectPrototypeKeys)
    {kept : SandboxRegistry} (hkept : serializeRegistryForDisk api data = .ok kept) :
    ((RowOp.update []).perform api name).exec file = (.ok true, .parsed kept.toJson) := by
  show (updateSandbox api name []).exec file = _
  unfold updateSandbox
  rw [exec_changeRegistry hload (update_change habsent hname rfl), hkept]

lemma serialize_of_selected {next written : SandboxRegistry}
    (hnext : setDefaultInRegistry data name = .ok (some next))
    (h : serializeRegistryForDisk api next = .ok written) :
    ∃ kept, serializeRegistryForDisk api data = .ok kept := by
  unfold setDefaultInRegistry at hnext
  split at hnext
  · cases hnext
  obtain ⟨revision, hrevision, hnext⟩ := except_bind_inv hnext
  cases hnext
  obtain ⟨sandboxes, hrows, -⟩ := except_bind_inv h
  have hcounts : ∃ n, revisionFor data (retainedDefaultSandbox data.defaultSandbox sandboxes) =
      .ok n := by
    unfold revisionFor
    split
    · exact ⟨_, rfl⟩
    · exact ⟨_, hrevision⟩
  obtain ⟨n, hn⟩ := hcounts
  exact ⟨_, except_bind_ok hrows (except_bind_ok hn rfl)⟩

/-- A registry that cannot be saved is left alone by each of the operations. -/
lemma perform_unsaved (hload : loadRegistry api file = .ok data)
    (habsent : data.sandboxes.lookup name = none) (hname : name ∈ objectPrototypeKeys)
    (hunsaved : ∀ kept, serializeRegistryForDisk api data ≠ .ok kept) (op : RowOp) :
    LeavesRows api file data name ((op.perform api name).exec file).1
      ((op.perform api name).exec file).2 := by
  have hleaves : ∀ change : SandboxRegistry → Except String (Option SandboxRegistry × Bool),
      (∀ next, change data = .ok (next, true) → ∃ after, next = some after ∧
        ∀ written, serializeRegistryForDisk api after ≠ .ok written) →
      (∀ answer next, change data = .ok (next, answer) → answer = false → next = none) →
      LeavesRows api file data name ((changeRegistry api change).exec file).1
        ((changeRegistry api change).exec file).2 := by
    intro change hsaves hrefuses
    cases houtcome : (changeRegistry api change).exec file with
    | mk outcome after =>
      cases outcome with
      | error e => rw [← houtcome]; exact leavesRows_unsaved (by rw [houtcome])
      | ok answer =>
        obtain ⟨data', next, hload', hchange, hsaved⟩ := changeRegistry_ok houtcome
        rw [hload] at hload'
        cases hload'
        cases answer with
        | true =>
          obtain ⟨later, hlater, hnever⟩ := hsaves next hchange
          obtain ⟨written, hwritten, -⟩ := hsaved later hlater
          exact absurd hwritten (hnever written)
        | false =>
          rw [hrefuses false next hchange rfl] at hchange
          rw [← houtcome]; exact leavesRows_refused hload hchange
  cases op with
  | setDefault =>
    refine hleaves _ (fun next hnext => ?_) fun answer next hnext hanswer => ?_
    · rw [row_inherited habsent hname] at hnext
      obtain ⟨selected, hselected, hnext⟩ := except_bind_inv hnext
      obtain ⟨rfl, hsome⟩ := Prod.mk.inj (Except.ok.inj hnext)
      obtain ⟨after, rfl⟩ := isSome_iff_exists.mp hsome
      refine ⟨after, rfl, fun written hwritten => ?_⟩
      obtain ⟨kept, hkept⟩ := serialize_of_selected hselected hwritten
      exact hunsaved kept hkept
    · rw [row_inherited habsent hname] at hnext
      obtain ⟨selected, -, hnext⟩ := except_bind_inv hnext
      obtain ⟨rfl, hsome⟩ := Prod.mk.inj (Except.ok.inj hnext)
      rw [hanswer] at hsome
      exact isSome_eq_false_iff.mp hsome |> isNone_iff_eq_none.mp
  | update updates =>
    cases hnamed : (updates.lookup "name").any (fun v => readString v ≠ some name) with
    | true =>
      refine leavesRows_refused hload ?_
      rw [row_inherited habsent hname, hnamed]; rfl
    | false =>
      refine hleaves _ (fun next hnext => ?_) fun answer next hnext hanswer => ?_
      · rw [update_change habsent hname hnamed] at hnext
        obtain ⟨rfl, -⟩ := Prod.mk.inj (Except.ok.inj hnext)
        exact ⟨data, rfl, hunsaved⟩
      · rw [update_change habsent hname hnamed] at hnext
        obtain ⟨-, htrue⟩ := Prod.mk.inj (Except.ok.inj hnext)
        rw [hanswer] at htrue; cases htrue
  | reserveInferenceRoute route =>
    refine hleaves _ (fun next hnext => ?_) fun answer next hnext hanswer => ?_
    · obtain ⟨rfl, -⟩ := Prod.mk.inj (Except.ok.inj hnext)
      refine ⟨_, rfl, fun written hwritten => ?_⟩
      by_cases hproto : name = "__proto__"
      · rw [assignKey, if_pos hproto] at hwritten; exact hunsaved written hwritten
      · rw [assignKey, if_neg hproto, setOwn, habsent] at hwritten
        obtain ⟨kept, -, hkept, -⟩ := serialize_reserved (reservedRow_pending _ _ _) hwritten
        exact hunsaved kept hkept
    · obtain ⟨-, htrue⟩ := Prod.mk.inj (Except.ok.inj hnext)
      rw [hanswer] at htrue; cases htrue

/-- A registry is saved under its own default if that stands for a row that is not reserved
only, or is none. -/
lemma serialize_default {kept : SandboxRegistry}
    (hkept : serializeRegistryForDisk api data = .ok kept)
    (hstands : retainedDefaultSandbox data.defaultSandbox data.sandboxes = data.defaultSandbox) :
    kept.selection = data.selection := by
  obtain ⟨-, hdefault, hrevision⟩ := serializeRegistryForDisk_rows hkept
  rw [hstands] at hdefault
  rw [hdefault, revisionFor_same] at hrevision
  unfold SandboxRegistry.selection
  rw [hdefault, Except.ok.inj hrevision]

end Absent

/-- On a name without a row every operation fails, or makes a new row, and leaves the rows
and the default as they are, exactly if no object inherits a property of that name, or the
registry cannot be saved at all. The default is left as it is as far as it stands for a row. -/
theorem rowOps_absent (api : RowFieldApi) {file : ConfigFile} {data : SandboxRegistry}
    (hload : loadRegistry api file = .ok data) {name : String}
    (habsent : data.sandboxes.lookup name = none) :
    ((∀ op : RowOp, LeavesRows api file data name ((op.perform api name).exec file).1
        ((op.perform api name).exec file).2) ↔
      name ∉ objectPrototypeKeys ∨ ∀ kept, serializeRegistryForDisk api data ≠ .ok kept) ∧
    ∀ kept, serializeRegistryForDisk api data = .ok kept →
      retainedDefaultSandbox data.defaultSandbox data.sandboxes = data.defaultSandbox →
        kept.selection = data.selection := by
  refine ⟨⟨fun hops => ?_, fun hcond op => ?_⟩, fun kept => serialize_default⟩
  · by_cases hname : name ∈ objectPrototypeKeys
    swap
    · exact .inl hname
    refine .inr fun kept hkept => ?_
    have hupdate := hops (.update [])
    rw [update_inherited hload habsent hname hkept] at hupdate
    generalize hfile : ConfigFile.parsed kept.toJson = after at hupdate
    generalize houtcome : (Except.ok true : Except String Bool) = outcome at hupdate
    cases hupdate with
    | failed _ hfailed => exact hfailed houtcome.symm
    | created kept' row hkept' hrow =>
    -- The file would have one row more than what was saved.
    rw [hkept] at hkept'
    cases hkept'
    have hrows := congrArg (fun file : ConfigFile => file.value.get? "sandboxes") hfile
    have hequal : kept.sandboxes.map (fun row => (row.1, Json.obj row.2)) =
        (kept.sandboxes ++ [(name, row)]).map (fun row => (row.1, Json.obj row.2)) :=
      Json.obj.inj (some.inj hrows)
    have hlength := congrArg List.length hequal; simp at hlength
  · rcases hcond with hname | hunsaved
    · exact perform_absent hload habsent hname op
    · by_cases hname : name ∈ objectPrototypeKeys
      · exact perform_unsaved hload habsent hname hunsaved op
      · exact perform_absent hload habsent hname op

/-- Codecs that take every value. -/
def plainFieldApi : RowFieldApi :=
  { cloneSandboxMessagingState := .ok
    serializeSandboxMessagingStateForDisk := .ok
    cloneSandboxWorkloadReceipt := .ok
    normalizeSandboxMcpState := .ok
    serializeSandboxMcpStateForDisk := .ok
    normalizeBaselineExclusions := .ok
    normalizeBaselineExclusionTransition := .ok
    normalizeCustomPolicyEntries := .ok }

def alphaRow : SandboxEntry := [("name", .str "alpha")]

def alphaRegistry (others : List (String × SandboxEntry)) : SandboxRegistry :=
  { defaultSandbox := some "alpha"
    defaultSelectionRevision := 1
    sandboxes := ("alpha", alphaRow) :: others
    extraProviders := none }

/-- Selecting a sandbox that was never registered leaves the registered one alone. -/
theorem rowOps_absent_beta :
    LeavesRows plainFieldApi (.parsed (alphaRegistry []).toJson) (alphaRegistry []) "beta"
      ((RowOp.setDefault.perform plainFieldApi "beta").exec
        (.parsed (alphaRegistry []).toJson)).1
      ((RowOp.setDefault.perform plainFieldApi "beta").exec
        (.parsed (alphaRegistry []).toJson)).2 := by
  have hload : loadRegistry plainFieldApi (.parsed (alphaRegistry []).toJson) =
      .ok (alphaRegistry []) := rfl
  have habsent : (alphaRegistry []).sandboxes.lookup "beta" = none := rfl
  exact (rowOps_absent plainFieldApi hload habsent).1.mpr (.inl (by decide)) .setDefault

/-- An operation on a name that every object inherits, with `alpha` registered. -/
def onConstructor (op : RowOp) : Except String Bool × ConfigFile :=
  (op.perform plainFieldApi "constructor").exec (.parsed (alphaRegistry []).toJson)

/-- Every object has a constructor: selecting it succeeds and takes the default from the
registered sandbox, updating it succeeds, and reserving a route for it stores a row that the
next load drops. -/
theorem rowOps_constructor :
    (alphaRegistry []).sandboxes.lookup "constructor" = none ∧
      (onConstructor .setDefault).1 = .ok true ∧
      (alphaRegistry []).defaultSandbox = some "alpha" ∧
      (onConstructor .setDefault).2.selection.1 = none ∧
      (onConstructor (.update [])).1 = .ok true ∧
      (onConstructor (.reserveInferenceRoute [])).1 = .ok true ∧
      ∀ data, loadRegistry plainFieldApi (onConstructor (.reserveInferenceRoute [])).2 = .ok data →
        data.sandboxes.lookup "constructor" = none := by
  refine ⟨by decide, rfl, rfl, by decide +kernel, rfl, rfl, fun data hdata => ?_⟩
  cases hdata; decide +kernel

end NemoClaw
