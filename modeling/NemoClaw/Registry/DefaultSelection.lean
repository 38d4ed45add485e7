import NemoClaw.Lib.Versioned
import NemoClaw.Registry.Store

/- The default sandbox on disk, and the revision that guards it.

An operation may move the default in memory and the save may then repair it, and both
count. What matters to a compare-and-set on the revision is the sum: what the file
said before and what it says after.

What is proved:
  1. `serializeRegistryForDisk_selects` — a save repairs the default and counts when
     it does.
  2. `RegistryOp.perform_writes` — every operation leaves the file alone, or writes a
     valid default under the law of the revision.
  3. Along any run of operations every file written has a default that is null or
     names a row without a pending reservation, and the revision follows the law of
     `Lib.Versioned` from file to file.
-/
namespace NemoClaw

open Js Js.Json Onboard Versioned

/-! ## What the file says -/

namespace ConfigFile

def value : ConfigFile → Json
  | missing => .obj []
  | corrupt => .null
  | parsed v => v

/-- The default of the file and its revision, as they are read. -/
def selection (file : ConfigFile) : Option String × Nat :=
  (readString (file.value.get? "defaultSandbox"),
    (normalizeDefaultSelectionRevision
      (file.value.get? "defaultSelectionRevision")).toOption.getD 0)

def row (file : ConfigFile) (name : String) : Option SandboxEntry :=
  match file.value.get? "sandboxes" with
  | some (.obj rows) =>
    match rows.lookup name with
    | some (.obj fields) => some fields
    | _ => none
  | _ => none

/-- The default is null, or a row without a pending reservation. -/
def ValidDefault (file : ConfigFile) : Prop :=
  ∀ name, file.selection.1 = some name →
    ∃ entry, file.row name = some entry ∧ entry.isPendingRouteReservation = false

end ConfigFile

/-- The default in memory and its revision. -/
def SandboxRegistry.selection (registry : SandboxRegistry) : Option String × Nat :=
  (registry.defaultSandbox, registry.defaultSelectionRevision)

/-- A change of the registry obeys the law of the revision and keeps it countable. -/
structure Selects (before after : SandboxRegistry) : Prop where
  moves : Moves before.selection after.selection
  safe : before.defaultSelectionRevision ≤ maxSafeInteger →
    after.defaultSelectionRevision ≤ maxSafeInteger

lemma incrementDefaultSelectionRevision_ok {n m : Nat}
    (h : incrementDefaultSelectionRevision n = .ok m) : m = n + 1 ∧ n ≠ maxSafeInteger := by
  obtain ⟨hne, h⟩ := require_bind_inv h; exact ⟨(Except.ok.inj h).symm, hne⟩

lemma Selects.of_increment {before after : SandboxRegistry}
    (h : incrementDefaultSelectionRevision before.defaultSelectionRevision =
      .ok after.defaultSelectionRevision) : Selects before after := by
  obtain ⟨hnext, hne⟩ := incrementDefaultSelectionRevision_ok h
  refine ⟨.of_lt ?_, fun hsafe => ?_⟩
  · show before.defaultSelectionRevision < after.defaultSelectionRevision; omega
  · omega

lemma Selects.of_same {before after : SandboxRegistry}
    (hdefault : before.defaultSandbox = after.defaultSandbox)
    (hrevision : before.defaultSelectionRevision = after.defaultSelectionRevision) :
    Selects before after :=
  ⟨.of_eq hdefault hrevision.le, fun hsafe => hrevision ▸ hsafe⟩

lemma Selects.of_revisionFor {before after : SandboxRegistry}
    (h : revisionFor before after.defaultSandbox = .ok after.defaultSelectionRevision) :
    Selects before after := by
  unfold revisionFor at h
  split at h
  · next hsame => exact .of_same hsame.symm (Except.ok.inj h)
  · exact .of_increment h

lemma retainedDefaultSandbox_eq_some {d : Option String} {name : String}
    {sandboxes : List (String × SandboxEntry)}
    (h : retainedDefaultSandbox d sandboxes = some name) :
    ∃ entry, sandboxes.lookup name = some entry ∧ entry.isPendingRouteReservation = false := by
  obtain ⟨-, hrow⟩ := Option.filter_eq_some_iff.mp h
  cases hentry : sandboxes.lookup name with
  | none => simp [hentry] at hrow
  | some entry => exact ⟨entry, rfl, by simpa [hentry] using hrow⟩

variable {api : RowFieldApi} {data : SandboxRegistry}

/-- A save repairs the default, and counts when it does. -/
theorem serializeRegistryForDisk_selects {written : SandboxRegistry}
    (h : serializeRegistryForDisk api data = .ok written) :
    Selects data written ∧
      written.defaultSandbox = retainedDefaultSandbox data.defaultSandbox written.sandboxes := by
  obtain ⟨sandboxes, -, h⟩ := except_bind_inv h
  obtain ⟨revision, hrevision, h⟩ := except_bind_inv h
  cases h; exact ⟨.of_revisionFor hrevision, rfl⟩

lemma selection_toJson {registry : SandboxRegistry}
    (hsafe : registry.defaultSelectionRevision ≤ maxSafeInteger) :
    (ConfigFile.parsed registry.toJson).selection = registry.selection := by
  have hdefault : readString ((ConfigFile.parsed registry.toJson).value.get? "defaultSandbox") =
      registry.defaultSandbox := readString_ofString? registry.defaultSandbox
  have hrevision : normalizeDefaultSelectionRevision
      ((ConfigFile.parsed registry.toJson).value.get? "defaultSelectionRevision") =
        .ok registry.defaultSelectionRevision := by
    show normalizeDefaultSelectionRevision (some (ofNat registry.defaultSelectionRevision)) = _
    simp only [normalizeDefaultSelectionRevision, readSafeNat_ofNat hsafe]
  unfold ConfigFile.selection
  rw [hdefault, hrevision]; rfl

lemma lookup_rows (rows : List (String × SandboxEntry)) (name : String) :
    (rows.map fun row => (row.1, Json.obj row.2)).lookup name =
      (rows.lookup name).map Json.obj := by
  induction rows with
  | nil => rfl
  | cons row rows ih =>
    obtain ⟨key, fields⟩ := row
    by_cases h : name = key
    · simp [h]
    · simp [List.lookup_cons, beq_false_of_ne h, ih]

lemma row_toJson (registry : SandboxRegistry) (name : String) :
    (ConfigFile.parsed registry.toJson).row name = registry.sandboxes.lookup name := by
  show (match (registry.sandboxes.map fun row => (row.1, Json.obj row.2)).lookup name with
    | some (.obj fields) => some fields
    | _ => none) = _
  rw [lookup_rows]; cases registry.sandboxes.lookup name <;> rfl

lemma normalizeRegistry_selection {value : Json} (h : normalizeRegistry api value = .ok data) :
    data.defaultSandbox = readString (value.get? "defaultSandbox") ∧
      normalizeDefaultSelectionRevision (value.get? "defaultSelectionRevision") =
        .ok data.defaultSelectionRevision := by
  obtain ⟨sandboxes, -, h⟩ := except_bind_inv h
  obtain ⟨revision, hrevision, h⟩ := except_bind_inv h
  cases h; exact ⟨rfl, hrevision⟩

lemma normalizeDefaultSelectionRevision_le {v : Option Json} {n : Nat}
    (h : normalizeDefaultSelectionRevision v = .ok n) : n ≤ maxSafeInteger := by
  unfold normalizeDefaultSelectionRevision at h
  split at h
  · cases h; exact Nat.zero_le _
  split at h
  · next m hm =>
    cases h; exact readSafeNat_le hm
  · cases h

lemma loadRegistry_selection {file : ConfigFile} (h : loadRegistry api file = .ok data) :
    data.selection = file.selection ∧ data.defaultSelectionRevision ≤ maxSafeInteger := by
  cases file with
  | corrupt => cases h
  | missing =>
    obtain ⟨hdefault, hrevision⟩ := normalizeRegistry_selection h
    have hdefault : data.defaultSandbox = none := hdefault
    have hzero : 0 = data.defaultSelectionRevision := Except.ok.inj hrevision
    refine ⟨?_, normalizeDefaultSelectionRevision_le hrevision⟩
    unfold SandboxRegistry.selection
    rw [hdefault, ← hzero]; rfl
  | parsed value =>
    obtain ⟨hdefault, hrevision⟩ := normalizeRegistry_selection h
    refine ⟨?_, normalizeDefaultSelectionRevision_le hrevision⟩
    unfold SandboxRegistry.selection ConfigFile.selection ConfigFile.value
    simp only
    rw [hdefault, hrevision]; rfl

structure WritesDefault (before after : ConfigFile) : Prop where
  valid : after = before ∨ after.ValidDefault
  moves : Moves before.selection after.selection

lemma WritesDefault.refl (file : ConfigFile) : WritesDefault file file := ⟨.inl rfl, .refl _⟩

lemma saveRegistry_writes {file : ConfigFile} {next : SandboxRegistry}
    (hload : loadRegistry api file = .ok data) (hnext : Selects data next) :
    (saveRegistry api next).Ends file fun _ after => WritesDefault file after := by
  obtain ⟨hselection, hsafe⟩ := loadRegistry_selection hload
  refine Call.ends_ofExcept_bind (fun written hwritten => ?_) fun _ _ => .refl file
  obtain ⟨hsave, hretained⟩ := serializeRegistryForDisk_selects hwritten
  have hafter := selection_toJson (hsave.safe (hnext.safe hsafe))
  refine Call.ends_set ⟨.inr fun name hname => ?_, ?_⟩
  · rw [hafter] at hname
    obtain ⟨entry, hentry, hpending⟩ :=
      retainedDefaultSandbox_eq_some (hretained.symm.trans hname)
    exact ⟨entry, (row_toJson written name).trans hentry, hpending⟩
  · rw [hafter, ← hselection]; exact hnext.moves.trans hsave.moves

lemma changeRegistry_writes {α : Type}
    {change : SandboxRegistry → Except String (Option SandboxRegistry × α)}
    (hchange : ∀ data next a, change data = .ok (some next, a) → Selects data next)
    (file : ConfigFile) :
    (changeRegistry api change).Ends file fun _ after => WritesDefault file after := by
  refine Call.ends_get_bind ?_
  refine Call.ends_ofExcept_bind (fun data hload => ?_) fun _ _ => .refl file
  refine Call.ends_ofExcept_bind (fun result hresult => ?_) fun _ _ => .refl file
  obtain ⟨next, answer⟩ := result
  cases next with
  | none => exact Call.ends_pure (.refl file)
  | some next =>
    exact Call.ends_discard (saveRegistry_writes hload (hchange data next answer hresult))

/-- An operation on the registry, with its arguments. -/
inductive RegistryOp where
  | register (entry : NamedEntry) (now : IsoTimestamp)
  | update (name : String) (updates : List (String × Option Json))
  | reserveInferenceRoute (name : String) (route : SandboxEntry)
  | setDefault (name : String)
  | removeWithReceipt (name : String)
  | restoreIfMissing (receipt : SandboxRemovalReceipt)
  | restoreEntry (entry : NamedEntry) (defaultTransition : Option RegistryDefaultTransition)
  | clearAll

def RegistryOp.perform (api : RowFieldApi) : RegistryOp → Call ConfigFile Unit
  | register entry now => registerSandbox api entry now
  | update name updates => do
    let _ ← updateSandbox api name updates
  | reserveInferenceRoute name route => do
    let _ ← reserveSandboxInferenceRoute api name route
  | setDefault name => do
    let _ ← NemoClaw.setDefault api name
  | removeWithReceipt name => do
    let _ ← removeSandboxWithReceipt api name
  | restoreIfMissing receipt => do
    let _ ← restoreSandboxEntryIfMissing api receipt
  | restoreEntry entry defaultTransition => restoreSandboxEntry api entry defaultTransition
  | clearAll => NemoClaw.clearAll api

section Ops

variable (api : RowFieldApi) (file : ConfigFile)

lemma claimInitialDefaultInRegistry_ok {registry next : SandboxRegistry} {name : String}
    (h : claimInitialDefaultInRegistry registry name = .ok next) :
    next = registry ∧ registry.defaultSandbox ≠ none ∨
      incrementDefaultSelectionRevision registry.defaultSelectionRevision =
        .ok next.defaultSelectionRevision := by
  unfold claimInitialDefaultInRegistry at h
  split at h
  · next hclaimed =>
    refine .inl ⟨(Except.ok.inj h).symm, fun hnone => ?_⟩
    simp [hnone] at hclaimed
  · obtain ⟨revision, hrevision, h⟩ := except_bind_inv h
    cases h; exact .inr hrevision

lemma registerSandbox_writes (entry : NamedEntry) (now : IsoTimestamp) :
    (registerSandbox api entry now).Ends file fun _ after => WritesDefault file after := by
  refine changeRegistry_writes (fun data next a h => ?_) file
  obtain ⟨row, -, h⟩ := except_bind_inv h
  obtain ⟨claimed, hclaim, h⟩ := except_bind_inv h
  obtain ⟨hnext, -⟩ := Prod.mk.inj (Except.ok.inj h)
  cases hnext
  rcases claimInitialDefaultInRegistry_ok hclaim with ⟨rfl, hkept⟩ | hrevision
  · -- a default that is left in place was not dropped first
    refine .of_same ?_ rfl
    by_cases hretained : retainedDefaultSandbox data.defaultSandbox data.sandboxes = none
    · simp [hretained] at hkept
    · simp [hretained]
  · exact .of_increment hrevision

lemma reserveSandboxInferenceRoute_writes (name : String) (route : SandboxEntry) :
    (reserveSandboxInferenceRoute api name route).Ends file fun _ after =>
      WritesDefault file after := by
  refine changeRegistry_writes (fun data next a h => ?_) file
  obtain ⟨hnext, -⟩ := Prod.mk.inj (Except.ok.inj h)
  cases hnext; exact .of_same rfl rfl

lemma updateSandbox_writes (name : String) (updates : List (String × Option Json)) :
    (updateSandbox api name updates).Ends file fun _ after => WritesDefault file after := by
  refine changeRegistry_writes (fun data next a h => ?_) file
  split at h
  · cases h
  split at h
  · cases h
  · obtain ⟨hnext, -⟩ := Prod.mk.inj (Except.ok.inj h)
    cases hnext; exact .of_same rfl rfl

lemma setDefault_writes (name : String) :
    (setDefault api name).Ends file fun _ after => WritesDefault file after := by
  refine changeRegistry_writes (fun data next a h => ?_) file
  split at h
  · cases h
  obtain ⟨moved, hmoved, h⟩ := except_bind_inv h
  obtain ⟨rfl, -⟩ := Prod.mk.inj (Except.ok.inj h)
  unfold setDefaultInRegistry at hmoved
  split at hmoved
  · cases hmoved
  · obtain ⟨revision, hrevision, hmoved⟩ := except_bind_inv hmoved
    cases hmoved; exact .of_increment hrevision

lemma removeSandboxFromRegistry_selects {data next : SandboxRegistry} {name : String}
    {receipt : Option SandboxRemovalReceipt}
    (h : removeSandboxFromRegistry data name = .ok (next, receipt)) : Selects data next := by
  unfold removeSandboxFromRegistry at h
  split at h
  · obtain ⟨rfl, -⟩ := Prod.mk.inj (Except.ok.inj h); exact .of_same rfl rfl
  obtain ⟨revision, hrevision, h⟩ := except_bind_inv h
  obtain ⟨rfl, -⟩ := Prod.mk.inj (Except.ok.inj h)
  unfold removalRevision at hrevision
  split at hrevision
  · exact .of_increment hrevision
  · next hother => exact .of_same (by simp [hother]) (Except.ok.inj hrevision)

lemma removeSandboxWithReceipt_writes (name : String) :
    (removeSandboxWithReceipt api name).Ends file fun _ after => WritesDefault file after := by
  refine changeRegistry_writes (fun data next a h => ?_) file
  obtain ⟨⟨registry, receipt⟩, hremove, h⟩ := except_bind_inv h
  cases receipt with
  | none => cases h
  | some receipt =>
    obtain ⟨hnext, -⟩ := Prod.mk.inj (Except.ok.inj h)
    cases hnext; exact removeSandboxFromRegistry_selects hremove

lemma restoreSandboxEntryInRegistry_selects {data next : SandboxRegistry} {entry : NamedEntry}
    {defaultTransition : Option RegistryDefaultTransition}
    (h : restoreSandboxEntryInRegistry data entry defaultTransition = .ok next) :
    Selects data next := by
  unfold restoreSandboxEntryInRegistry at h
  split at h
  · cases h; exact .of_same rfl rfl
  simp only at h
  split at h
  · obtain ⟨revision, hrevision, h⟩ := except_bind_inv h
    cases h; exact .of_increment hrevision
  · cases h; exact .of_same rfl rfl

lemma restoreSandboxEntry_writes (entry : NamedEntry)
    (defaultTransition : Option RegistryDefaultTransition) :
    (restoreSandboxEntry api entry defaultTransition).Ends file fun _ after =>
      WritesDefault file after := by
  refine changeRegistry_writes (fun data next a h => ?_) file
  obtain ⟨restored, hrestored, h⟩ := except_bind_inv h
  obtain ⟨hnext, -⟩ := Prod.mk.inj (Except.ok.inj h)
  cases hnext; exact restoreSandboxEntryInRegistry_selects hrestored

lemma restoreSandboxEntryIfMissing_writes (receipt : SandboxRemovalReceipt) :
    (restoreSandboxEntryIfMissing api receipt).Ends file fun _ after =>
      WritesDefault file after := by
  refine changeRegistry_writes (fun data next a h => ?_) file
  obtain ⟨restored, hrestored, h⟩ := except_bind_inv h
  obtain ⟨rfl, -⟩ := Prod.mk.inj (Except.ok.inj h)
  unfold restoreSandboxIfMissingInRegistry at hrestored
  split at hrestored
  · cases hrestored
  · obtain ⟨revision, hrevision, hrestored⟩ := except_bind_inv hrestored
    cases hrestored; exact .of_revisionFor hrevision

lemma clearAll_writes :
    (clearAll api).Ends file fun _ after => WritesDefault file after := by
  refine changeRegistry_writes (fun data next a h => ?_) file
  obtain ⟨cleared, hcleared, h⟩ := except_bind_inv h
  obtain ⟨hnext, -⟩ := Prod.mk.inj (Except.ok.inj h)
  cases hnext
  obtain ⟨revision, hrevision, hcleared⟩ := except_bind_inv hcleared
  cases hcleared; exact .of_revisionFor hrevision

theorem RegistryOp.perform_writes (op : RegistryOp) :
    WritesDefault file ((op.perform api).exec file).2 := by
  cases op with
  | register entry now => exact registerSandbox_writes api file entry now
  | update name updates => exact Call.ends_discard (updateSandbox_writes api file name updates)
  | reserveInferenceRoute name route =>
    exact Call.ends_discard (reserveSandboxInferenceRoute_writes api file name route)
  | setDefault name => exact Call.ends_discard (setDefault_writes api file name)
  | removeWithReceipt name =>
    exact Call.ends_discard (removeSandboxWithReceipt_writes api file name)
  | restoreIfMissing receipt =>
    exact Call.ends_discard (restoreSandboxEntryIfMissing_writes api file receipt)
  | restoreEntry entry transition => exact restoreSandboxEntry_writes api file entry transition
  | clearAll => exact clearAll_writes api file

/-- After any operations on any file, the next one leaves the file alone or writes a
default that is null or a row without a pending reservation; its revision does not fall,
and rises when the default on disk changes. And a revision found unchanged at the end of
a run means the default was not changed by the run. -/
theorem registry_default_selection (ops : List RegistryOp) (op : RegistryOp) :
    let before := Call.runCalls (ops.map (RegistryOp.perform api)) file
    let after := Call.runCalls ((ops ++ [op]).map (RegistryOp.perform api)) file
    (after = before ∨ after.ValidDefault) ∧
    before.selection.2 ≤ after.selection.2 ∧
    (before.selection.1 ≠ after.selection.1 → before.selection.2 < after.selection.2) ∧
    (file.selection.2 = after.selection.2 → file.selection.1 = after.selection.1) := by
  have hrun : ∀ ops : List RegistryOp,
      Moves file.selection (Call.runCalls (ops.map (RegistryOp.perform api)) file).selection := by
    intro ops
    unfold Call.runCalls
    rw [List.foldl_map]
    exact moves_foldl (fun s op => (op.perform_writes api s).moves) ops file
  have hlast := op.perform_writes api (Call.runCalls (ops.map (RegistryOp.perform api)) file)
  have hafter : Call.runCalls ((ops ++ [op]).map (RegistryOp.perform api)) file =
      ((op.perform api).exec (Call.runCalls (ops.map (RegistryOp.perform api)) file)).2 := by
    rw [List.map_append, Call.runCalls_append]; rfl
  rw [← hafter] at hlast
  exact ⟨hlast.valid, hlast.moves.1, hlast.moves.2, (hrun (ops ++ [op])).eq_of_version⟩

end Ops

end NemoClaw
