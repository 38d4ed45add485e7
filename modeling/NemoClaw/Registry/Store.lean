import NemoClaw.Registry.Entry

/- The sandbox registry: its file, and the operations on it.

Every operation loads the registry, changes it in memory and saves it; the lock
around it is the subject of `Registry.Lock`. The default is repaired when the
registry is saved, so what an operation leaves in memory and what reaches the file
may differ.

Correspondence (state/registry.ts, registry/persistence.ts, registry-normalization.ts,
registry-reversible-removal.ts, config-io.ts ↔ Lean): definitions keep the source's
names. `Call ConfigFile` is an operation on the file. A row that a name inherits from
`Object.prototype` has no properties.
-/
namespace NemoClaw

open Js Js.Json Onboard

/-! ## The registry in memory -/

structure SandboxRegistry where
  defaultSandbox : Option String
  defaultSelectionRevision : Nat
  sandboxes : List (String × SandboxEntry)
  extraProviders : Option (List String)

/-- `registry.sandboxes[name]`. -/
def SandboxRegistry.row (registry : SandboxRegistry) (name : String) : Option SandboxEntry :=
  getInherited registry.sandboxes name []

def retainedDefaultSandbox (defaultSandbox : Option String)
    (sandboxes : List (String × SandboxEntry)) : Option String :=
  defaultSandbox.filter fun name =>
    (sandboxes.lookup name).any fun entry => !entry.isPendingRouteReservation

def normalizeDefaultSelectionRevision (revision : Option Json) : Except String Nat :=
  match revision with
  | none => .ok 0
  | some v =>
    match readSafeNat (some v) with
    | some n => .ok n
    | none =>
      .error "Sandbox registry default-selection revision must be a non-negative safe integer"

def incrementDefaultSelectionRevision (revision : Nat) : Except String Nat := do
  require (revision ≠ maxSafeInteger)
    "Sandbox registry default-selection revision is exhausted"
  return revision + 1

def revisionFor (registry : SandboxRegistry) (defaultSandbox : Option String) :
    Except String Nat :=
  if defaultSandbox = registry.defaultSandbox then .ok registry.defaultSelectionRevision
  else incrementDefaultSelectionRevision registry.defaultSelectionRevision

/-- The revision after a removal: counted on when the removed row was the default. -/
def removalRevision (registry : SandboxRegistry) (name : String) : Except String Nat :=
  if registry.defaultSandbox = some name then
    incrementDefaultSelectionRevision registry.defaultSelectionRevision
  else .ok registry.defaultSelectionRevision

/-- `^[a-zA-Z][a-zA-Z0-9._-]{0,127}$`. -/
def isValidExtraProviderName (name : String) : Bool :=
  match name.toList with
  | [] => false
  | c :: cs => c.isAlpha && decide (cs.length ≤ 127) &&
      cs.all fun d => d.isAlphanum || d ∈ ['.', '_', '-']

def normalizeExtraProviders (input : Option Json) : Option (List String) :=
  match input with
  | some (.arr values) =>
    let cleaned := (values.filterMap fun v => readString (some v)).filter isValidExtraProviderName
    let deduped := (uniq cleaned).insertionSort (· ≤ ·)
    if deduped = [] then none else some deduped
  | _ => none

/-- A configuration file, as `readConfigFile` finds it. -/
inductive ConfigFile where
  | missing
  | corrupt
  | parsed (value : Json)

def isSandboxEntryLike (name : String) (entry : Json) : Bool :=
  match entry with
  | .obj fields => readString (fields.lookup "name") = some name && jsTrim name ≠ ""
  | _ => false

def parseSandboxRegistryEntries (value : Option Json) : List (String × SandboxEntry) :=
  match value with
  | some (.obj rows) => rows.filterMap fun row =>
    match row.2 with
    | .obj fields => if isSandboxEntryLike row.1 row.2 then some (row.1, fields) else none
    | _ => none
  | _ => []

section Persistence

variable (api : RowFieldApi)

def normalizeRegistry (data : Json) : Except String SandboxRegistry := do
  let sandboxes ← (parseSandboxRegistryEntries (data.get? "sandboxes")).mapM fun row => do
    let entry ← normalizeSandboxEntryForRuntime api row.2
    return (row.1, entry)
  let defaultSelectionRevision ←
    normalizeDefaultSelectionRevision (data.get? "defaultSelectionRevision")
  return { defaultSandbox := readString (data.get? "defaultSandbox")
           defaultSelectionRevision
           sandboxes
           extraProviders := normalizeExtraProviders (data.get? "extraProviders") }

def loadRegistry : ConfigFile → Except String SandboxRegistry
  | .missing =>
    normalizeRegistry api (.obj [("sandboxes", .obj []), ("defaultSandbox", .null)])
  | .corrupt => .error "Configuration file is present but is not valid JSON"
  | .parsed value => normalizeRegistry api value

/-- The registry for the file, its default repaired. -/
def serializeRegistryForDisk (data : SandboxRegistry) : Except String SandboxRegistry := do
  let sandboxes ← data.sandboxes.mapM fun row => do
    let entry ← serializeSandboxEntryForDisk api row.2
    return (row.1, entry)
  let defaultSandbox := retainedDefaultSandbox data.defaultSandbox sandboxes
  let defaultSelectionRevision ← revisionFor data defaultSandbox
  return { defaultSandbox, defaultSelectionRevision, sandboxes,
           extraProviders := data.extraProviders.bind fun names =>
             normalizeExtraProviders (some (ofStrings names)) }

def SandboxRegistry.toJson (registry : SandboxRegistry) : Json :=
  .obj ([("defaultSandbox", ofString? registry.defaultSandbox),
    ("defaultSelectionRevision", ofNat registry.defaultSelectionRevision),
    ("sandboxes", .obj (registry.sandboxes.map fun row => (row.1, .obj row.2)))] ++
    optField "extraProviders" (registry.extraProviders.map ofStrings))

def saveRegistry (data : SandboxRegistry) : Call ConfigFile Unit := do
  let written ← Call.ofExcept (serializeRegistryForDisk api data)
  set (ConfigFile.parsed written.toJson)

end Persistence

/-- What a removal remembers, to be able to undo it. -/
structure SandboxRemovalReceipt where
  entry : NamedEntry
  wasDefault : Bool
  fallbackDefault : Option String
  postRemovalDefaultSelectionRevision : Nat

structure RegistryDefaultTransition where
  source : Option String
  target : String
  expectedRevision : Nat

def claimInitialDefaultInRegistry (registry : SandboxRegistry) (name : String) :
    Except String SandboxRegistry :=
  if registry.defaultSandbox.any (· ≠ "") then .ok registry
  else do
    let defaultSelectionRevision ←
      incrementDefaultSelectionRevision registry.defaultSelectionRevision
    return { registry with defaultSandbox := some name, defaultSelectionRevision }

def setDefaultInRegistry (registry : SandboxRegistry) (name : String) :
    Except String (Option SandboxRegistry) :=
  match registry.row name with
  | none => .ok none
  | some _ => do
    let defaultSelectionRevision ←
      incrementDefaultSelectionRevision registry.defaultSelectionRevision
    return some { registry with defaultSandbox := some name, defaultSelectionRevision }

def clearRegistry (registry : SandboxRegistry) : Except String SandboxRegistry := do
  let defaultSelectionRevision ← revisionFor registry none
  return { sandboxes := [], defaultSandbox := none, defaultSelectionRevision,
           extraProviders := none }

def restoreSandboxEntryInRegistry (registry : SandboxRegistry) (entry : NamedEntry)
    (defaultTransition : Option RegistryDefaultTransition) : Except String SandboxRegistry :=
  let restored := { registry with
    sandboxes := setOwn registry.sandboxes entry.name entry.toRow }
  match defaultTransition with
  | none => .ok restored
  | some transition =>
    if registry.defaultSandbox = transition.source ∧
        registry.defaultSelectionRevision = transition.expectedRevision ∧
        (restored.row transition.target).isSome then do
      let defaultSelectionRevision ←
        incrementDefaultSelectionRevision registry.defaultSelectionRevision
      return { restored with defaultSandbox := some transition.target, defaultSelectionRevision }
    else .ok restored

def removeSandboxFromRegistry (registry : SandboxRegistry) (name : String) :
    Except String (SandboxRegistry × Option SandboxRemovalReceipt) :=
  match registry.row name with
  | none => .ok (registry, none)
  | some entry => do
    let sandboxes := deleteKey registry.sandboxes name
    let fallbackDefault := (ownKeys sandboxes).head?.filter fun key => key ≠ ""
    let wasDefault := registry.defaultSandbox = some name
    let defaultSelectionRevision ← removalRevision registry name
    return ({ registry with
        sandboxes
        defaultSandbox := if wasDefault then fallbackDefault else registry.defaultSandbox
        defaultSelectionRevision },
      some { entry := { name, fields := deleteKey entry "name" }
             wasDefault
             fallbackDefault
             postRemovalDefaultSelectionRevision := defaultSelectionRevision })

/-- The registry with the entry restored, or `none` when its name is taken. -/
def restoreSandboxIfMissingInRegistry (registry : SandboxRegistry)
    (receipt : SandboxRemovalReceipt) : Except String (Option SandboxRegistry) :=
  match registry.row receipt.entry.name with
  | some _ => .ok none
  | none => do
    let sandboxes := setOwn registry.sandboxes receipt.entry.name receipt.entry.toRow
    let currentDefaultIsValid := registry.defaultSandbox.any fun name =>
      (getInherited sandboxes name []).isSome
    let shouldReclaimRemovedDefault := receipt.wasDefault ∧
      registry.defaultSandbox = receipt.fallbackDefault ∧
      registry.defaultSelectionRevision = receipt.postRemovalDefaultSelectionRevision
    let defaultSandbox :=
      if shouldReclaimRemovedDefault then some receipt.entry.name
      else if currentDefaultIsValid then registry.defaultSandbox
      else some receipt.entry.name
    let defaultSelectionRevision ← revisionFor registry defaultSandbox
    return some { registry with sandboxes, defaultSandbox, defaultSelectionRevision }

section Operations

variable (api : RowFieldApi)

/-- Load the registry, and save what `change` makes of it, if anything. -/
def changeRegistry {α : Type}
    (change : SandboxRegistry → Except String (Option SandboxRegistry × α)) :
    Call ConfigFile α := do
  let file ← get
  let data ← Call.ofExcept (loadRegistry api file)
  let (next, answer) ← Call.ofExcept (change data)
  match next with
  | none => return answer
  | some next =>
    saveRegistry api next
    return answer

def registerSandbox (entry : NamedEntry) (now : IsoTimestamp) : Call ConfigFile Unit :=
  changeRegistry api fun data => do
    let row ← registeredRow api entry.toRow now
    let defaultSandbox :=
      if retainedDefaultSandbox data.defaultSandbox data.sandboxes = none then none
      else data.defaultSandbox
    let next ← claimInitialDefaultInRegistry
      { data with defaultSandbox, sandboxes := assignKey data.sandboxes entry.name row }
      entry.name
    return (some next, ())

def reserveSandboxInferenceRoute (name : String) (route : SandboxEntry) : Call ConfigFile Bool :=
  changeRegistry api fun data =>
    let row := reservedRow name (data.row name) route
    .ok (some { data with sandboxes := assignKey data.sandboxes name row }, true)

/-- A name the registry only inherits changes no row; what is assigned to the inherited object is
left out. -/
def updateSandbox (name : String) (updates : List (String × Option Json)) :
    Call ConfigFile Bool :=
  changeRegistry api fun data =>
    if (data.row name).isNone then .ok (none, false)
    else if (updates.lookup "name").any (fun v => readString v ≠ some name) then
      .ok (none, false)
    else
      let sandboxes := data.sandboxes.map fun row =>
        if row.1 = name then (row.1, row.2.assign updates) else row
      .ok (some { data with sandboxes }, true)

def removeSandboxWithReceipt (name : String) : Call ConfigFile (Option SandboxRemovalReceipt) :=
  changeRegistry api fun data => do
    let (registry, receipt) ← removeSandboxFromRegistry data name
    match receipt with
    | none => return (none, none)
    | some receipt => return (some registry, some receipt)

def restoreSandboxEntry (entry : NamedEntry)
    (defaultTransition : Option RegistryDefaultTransition) : Call ConfigFile Unit :=
  changeRegistry api fun data => do
    let next ← restoreSandboxEntryInRegistry data entry defaultTransition
    return (some next, ())

def restoreSandboxEntryIfMissing (receipt : SandboxRemovalReceipt) : Call ConfigFile Bool :=
  changeRegistry api fun data => do
    let next ← restoreSandboxIfMissingInRegistry data receipt
    return (next, next.isSome)

def setDefault (name : String) : Call ConfigFile Bool :=
  changeRegistry api fun data =>
    if (data.row name).any (·.isPendingRouteReservation) then .ok (none, false)
    else do
      let next ← setDefaultInRegistry data name
      return (next, next.isSome)

def clearAll : Call ConfigFile Unit :=
  changeRegistry api fun data => do
    let next ← clearRegistry data
    return (some next, ())

end Operations

end NemoClaw
