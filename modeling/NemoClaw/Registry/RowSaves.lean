import NemoClaw.Registry.DefaultSelection

/- What a save of the registry keeps.

Every operation saves the whole registry. A row keeps its name and whether it is only
reserved, so the default that a save retains can be read off the rows before it.

What is proved:
  1. `lookup_of_serialize` — a plain property of a row is written as it is.
  2. `serializeRegistryForDisk_rows` — what a save makes of a registry: its rows one by
     one, and the default that is still a row without a reservation.
  3. `changeRegistry_atomic` — a change that throws has left the file alone, and
     `changeRegistry_ok` what one that goes through has written.
-/
namespace NemoClaw

open Js Js.Json Onboard Versioned SandboxEntry List

lemma lookup_optField (k key : String) (o : Option Json) :
    (optField k o).lookup key = if key = k then o else none := by
  cases o with
  | none => simp [optField]
  | some v => simp [optField, lookup_cons_if]

section Rows

variable {api : RowFieldApi} {row saved : SandboxEntry}

lemma lookup_withStructuredFields {rest : SandboxEntry} {key : String}
    (hkey : key ∉ structuredFields)
    (workload servingProfileProvenance messaging mcp baselineExclusions
      baselineExclusionTransition customPolicies : Option Json) :
    (withStructuredFields rest workload servingProfileProvenance messaging mcp
      baselineExclusions baselineExclusionTransition customPolicies).lookup key =
        rest.lookup key := by
  simp only [structuredFields, mem_cons, not_mem_nil, or_false, not_or] at hkey
  unfold withStructuredFields
  simp only [lookup_append, lookup_optField, hkey, if_false, Option.or_none]

/-- The properties that are dropped from a row when it is saved. -/
abbrev transientFields : List String :=
  ["recoveredFromGateway", "livePhase", "providerCredentialHashes"]

lemma lookup_of_serialize (hsave : serializeSandboxEntryForDisk api row = .ok saved)
    {key : String} (hkey : key ∉ structuredFields) (htransient : key ∉ transientFields)
    (hport : key ≠ "dashboardPort") : saved.lookup key = row.lookup key := by
  obtain ⟨messaging, -, hsave⟩ := except_bind_inv hsave
  obtain ⟨workload, -, hsave⟩ := except_bind_inv hsave
  obtain ⟨provenance, -, hsave⟩ := except_bind_inv hsave
  obtain ⟨mcp, -, hsave⟩ := except_bind_inv hsave
  obtain ⟨exclusions, -, hsave⟩ := except_bind_inv hsave
  obtain ⟨transition, -, hsave⟩ := except_bind_inv hsave
  obtain ⟨policies, -, hsave⟩ := except_bind_inv hsave
  cases hsave
  rw [lookup_withStructuredFields hkey]
  have hrest : (((row.filter fun kv => kv.1 ∉ transientFields).filter
      fun kv => kv.1 ∉ structuredFields).lookup key) = row.lookup key := by
    rw [lookup_filter_key (fun key => key ∉ structuredFields),
      lookup_filter_key (fun key => key ∉ transientFields)]
    simp [hkey, htransient]
  split
  · rw [lookup_setOwn, if_neg hport]; exact hrest
  · exact hrest

end Rows

/-! ## A registry that is saved -/

variable {api : RowFieldApi} {data : SandboxRegistry} {f : SandboxEntry → Except String SandboxEntry}
  {rows' : List (String × SandboxEntry)}

/-- Rows under the same names, each made by `f` from the other. -/
abbrev RowsBy (f : SandboxEntry → Except String SandboxEntry) :
    List (String × SandboxEntry) → List (String × SandboxEntry) → Prop :=
  Forall₂ fun a b => a.1 = b.1 ∧ f a.2 = .ok b.2

lemma mapM_rows_iff {rows : List (String × SandboxEntry)} :
    (rows.mapM fun row => do
      let entry ← f row.2
      return (row.1, entry)) = .ok rows' ↔ RowsBy f rows rows' := by
  induction rows generalizing rows' with
  | nil =>
    constructor
    · intro h
      cases h; exact .nil
    · intro h
      cases h; rfl
  | cons row rows ih =>
    rw [mapM_cons]
    constructor
    · intro h
      obtain ⟨first, hfirst, h⟩ := except_bind_inv h
      obtain ⟨entry, hentry, hfirst⟩ := except_bind_inv hfirst
      cases hfirst
      obtain ⟨rest, hrest, h⟩ := except_bind_inv h
      cases h; exact .cons ⟨rfl, hentry⟩ (ih.mp hrest)
    · intro h
      cases h with
      | cons hfirst hrest =>
        rename_i first rest
        obtain ⟨name, entry⟩ := first
        obtain ⟨hname, hentry⟩ := hfirst
        refine except_bind_ok (except_bind_ok hentry rfl) (except_bind_ok (ih.mpr hrest) ?_)
        rw [hname]; rfl

lemma RowsBy.lookup {rows : List (String × SandboxEntry)} (h : RowsBy f rows rows')
    (name : String) :
    (rows.lookup name = none ∧ rows'.lookup name = none) ∨
      ∃ entry entry', rows.lookup name = some entry ∧ rows'.lookup name = some entry' ∧
        f entry = .ok entry' := by
  induction h with
  | nil => exact .inl ⟨rfl, rfl⟩
  | cons hfirst hrest ih =>
    rename_i a b rows rows'
    obtain ⟨k, entry⟩ := a
    obtain ⟨k', entry'⟩ := b
    obtain ⟨hname, hentry⟩ := hfirst
    simp only at hname hentry
    subst hname
    rw [lookup_cons_if, lookup_cons_if]
    by_cases hk : name = k
    · rw [if_pos hk, if_pos hk]; exact .inr ⟨entry, entry', rfl, rfl, hentry⟩
    · rw [if_neg hk, if_neg hk]; exact ih

lemma name_of_serialize {row saved : SandboxEntry}
    (h : serializeSandboxEntryForDisk api row = .ok saved) :
    saved.lookup "name" = row.lookup "name" :=
  lookup_of_serialize h (by decide) (by decide) (by decide)

lemma pending_of_serialize {row saved : SandboxEntry}
    (h : serializeSandboxEntryForDisk api row = .ok saved) :
    saved.isPendingRouteReservation = row.isPendingRouteReservation := by
  unfold isPendingRouteReservation
  rw [lookup_of_serialize h (by decide) (by decide) (by decide)]

lemma RowsBy.retained {rows : List (String × SandboxEntry)} (h : RowsBy f rows rows')
    (hf : ∀ row row', f row = .ok row' → row'.isPendingRouteReservation = row.isPendingRouteReservation)
    (d : Option String) : retainedDefaultSandbox d rows' = retainedDefaultSandbox d rows := by
  have hsame : ∀ name, ((rows'.lookup name).any fun entry => !entry.isPendingRouteReservation) =
      (rows.lookup name).any fun entry => !entry.isPendingRouteReservation := by
    intro name
    rcases h.lookup name with ⟨hnone, hnone'⟩ | ⟨e, e', he, he', hentry⟩
    · rw [hnone, hnone']
    · rw [he, he', Option.any_some, Option.any_some, hf e e' hentry]
  unfold retainedDefaultSandbox; simp only [hsame]

lemma serializeRegistryForDisk_rows {next written : SandboxRegistry}
    (h : serializeRegistryForDisk api next = .ok written) :
    RowsBy (serializeSandboxEntryForDisk api) next.sandboxes written.sandboxes ∧
      written.defaultSandbox = retainedDefaultSandbox next.defaultSandbox next.sandboxes ∧
      revisionFor next written.defaultSandbox = .ok written.defaultSelectionRevision := by
  obtain ⟨sandboxes, hrows, h⟩ := except_bind_inv h
  obtain ⟨revision, hrevision, h⟩ := except_bind_inv h
  cases h
  have hrows := mapM_rows_iff.mp hrows
  exact ⟨hrows, hrows.retained (fun _ _ => pending_of_serialize) _, hrevision⟩

lemma revisionFor_same (registry : SandboxRegistry) :
    revisionFor registry registry.defaultSandbox = .ok registry.defaultSelectionRevision :=
  if_pos rfl

/-! ## Changes -/

lemma exec_changeRegistry {α : Type} {file : ConfigFile}
    {change : SandboxRegistry → Except String (Option SandboxRegistry × α)} {next : SandboxRegistry}
    {answer : α} (hload : loadRegistry api file = .ok data)
    (hchange : change data = .ok (some next, answer)) :
    (changeRegistry api change).exec file =
      match serializeRegistryForDisk api next with
      | .ok written => (.ok answer, .parsed written.toJson)
      | .error e => (.error e, file) := by
  unfold changeRegistry
  rw [Call.exec_bind_ok (Call.exec_get file), hload,
    Call.exec_bind_ok (Call.exec_ofExcept_ok data file), hchange,
    Call.exec_bind_ok (Call.exec_ofExcept_ok (some next, answer) file)]
  simp only [saveRegistry]
  cases serializeRegistryForDisk api next <;> rfl

lemma saveRegistry_atomic (api : RowFieldApi) (next : SandboxRegistry) :
    Call.Atomic (saveRegistry api next) :=
  (Call.silent_ofExcept _).bind fun _ => Call.atomic_set _

lemma changeRegistry_atomic {α : Type} (api : RowFieldApi)
    (change : SandboxRegistry → Except String (Option SandboxRegistry × α)) :
    Call.Atomic (changeRegistry api change) := by
  refine Call.silent_get.bind fun file => (Call.silent_ofExcept _).bind fun data =>
    (Call.silent_ofExcept _).bind fun result => ?_
  obtain ⟨next, answer⟩ := result
  cases next with
  | none => exact Call.Silent.atomic fun _ => rfl
  | some next =>
  intro file' e h
  cases hsave : (saveRegistry api next).exec file' with
  | mk outcome after =>
    cases outcome with
    | ok u => rw [Call.exec_bind_ok hsave] at h; cases h
    | error e' =>
      rw [Call.exec_bind_error hsave]
      have hkept := saveRegistry_atomic api next file' e' (by rw [hsave])
      rwa [hsave] at hkept

lemma changeRegistry_ok {α : Type} {file file' : ConfigFile}
    {change : SandboxRegistry → Except String (Option SandboxRegistry × α)} {answer : α}
    (h : (changeRegistry api change).exec file = (.ok answer, file')) :
    ∃ data next, loadRegistry api file = .ok data ∧ change data = .ok (next, answer) ∧
      ∀ after, next = some after → ∃ written, serializeRegistryForDisk api after = .ok written ∧
        file' = .parsed written.toJson := by
  cases hload : loadRegistry api file with
  | error e =>
    unfold changeRegistry at h
    rw [Call.exec_bind_ok (Call.exec_get file), hload] at h; cases h
  | ok data =>
    cases hchange : change data with
    | error e =>
      unfold changeRegistry at h
      rw [Call.exec_bind_ok (Call.exec_get file), hload,
        Call.exec_bind_ok (Call.exec_ofExcept_ok data file), hchange] at h
      cases h
    | ok result =>
      obtain ⟨next, answer'⟩ := result
      cases next with
      | none =>
        unfold changeRegistry at h
        rw [Call.exec_bind_ok (Call.exec_get file), hload,
          Call.exec_bind_ok (Call.exec_ofExcept_ok data file), hchange] at h
        cases h; exact ⟨data, none, rfl, hchange, nofun⟩
      | some next =>
        rw [exec_changeRegistry hload hchange] at h
        cases hwritten : serializeRegistryForDisk api next with
        | error e => rw [hwritten] at h; cases h
        | ok written =>
          rw [hwritten] at h
          cases h
          refine ⟨data, some next, rfl, hchange, fun after hafter => ?_⟩
          cases hafter; exact ⟨written, hwritten, rfl⟩

end NemoClaw
