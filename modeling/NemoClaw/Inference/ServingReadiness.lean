import NemoClaw.Js.Text
import NemoClaw.Js.Value
import NemoClaw.Lib.Pattern

/- Readiness reports as the resolver of managed inference reads them (`resolver.ts`,
`readiness/compatibility.ts`, `readiness/references.ts`).

Correspondence (TypeScript ↔ Lean): functions keep their names, but for `Report`
(`SystemReadinessReport`) and `schemaVersionError` (`checkSystemReadinessSchemaVersion`).

A time that is no finite number is `none`. No message is empty, so that a message is true
where it is there. `Date.parse` and `String(n)` are fields of `Host`.
-/
namespace NemoClaw.Serving

open Js

/-- Functions of the runtime. -/
structure Host where
  /-- `Date.parse`, in milliseconds; nothing for a text that is no date -/
  dateParse : String → Option ℚ
  /-- `String(n)` of a number -/
  numberText : ℚ → String
  /-- `net.isIP`: 4, 6, or 0 -/
  isIP : String → ℕ
  /-- the hexadecimal hash of the JSON text of a canonical value -/
  sha256 : Value → String

/-- What is known of a capability. -/
inductive ReadinessState where
  | present
  | absent
  | unknown
  deriving DecidableEq

/-- The state as reports write it. -/
def ReadinessState.text : ReadinessState → String
  | present => "present"
  | absent => "absent"
  | unknown => "unknown"

/-- What is known of a qualification. -/
inductive QualificationStatus where
  | qualified
  | unqualified
  | unknown
  deriving DecidableEq

/-- The status as reports write it. -/
def QualificationStatus.text : QualificationStatus → String
  | qualified => "qualified"
  | unqualified => "unqualified"
  | unknown => "unknown"

/-- How much a finding matters. -/
inductive Severity where
  | info
  | warning
  | blocking
  | fatal
  deriving DecidableEq

/-- What a report says on the whole. -/
inductive ReadinessStatus where
  | supported
  | incompatible
  | inconclusive
  deriving DecidableEq

/-- The status as reports write it. -/
def ReadinessStatus.text : ReadinessStatus → String
  | supported => "supported"
  | incompatible => "incompatible"
  | inconclusive => "inconclusive"

/-- A value that was observed on a node. -/
structure Observation where
  id : String
  state : ReadinessState
  value : Value
  evidenceIds : List String

/-- Something that a node can do. -/
structure Capability where
  id : String
  state : ReadinessState
  evidenceIds : List String

/-- Something that a node qualifies for by its capabilities. -/
structure Qualification where
  id : String
  status : QualificationStatus
  capabilityIds : List String

/-- Something that was found to be wrong. -/
structure Finding where
  id : String
  severity : Severity
  capabilityIds : List String
  evidenceIds : List String

/-- What a node reports of its readiness. -/
structure Report where
  schemaVersion : String
  mutated : Bool
  nemoclawVersion : String
  sourceRevision : String
  observedAt : String
  observations : List Observation
  capabilities : List Capability
  qualifications : List Qualification
  findings : List Finding
  /-- the ids of the evidence -/
  evidence : List String
  status : ReadinessStatus
  exitCode : ℕ

/-- A report and the node it is from. -/
structure ReadinessSource where
  nodeId : String
  report : Report

/-! ## Schema, references and findings -/

/-- The text has more than blanks. -/
def hasText (s : String) : Bool := jsTrim s != ""

/-- The digits of a number without leading zeros. -/
def isPlainNumber (cs : List Char) : Bool :=
  cs == ['0'] || (cs.head?.any (fun c => isDigit c && c != '0') && cs.all isDigit)

def SUPPORTED_SYSTEM_READINESS_SCHEMA_MAJOR : ℕ := 1

/-- Why a report's version cannot be read. -/
def schemaVersionError (host : Host) (schemaVersion : String) : Option String :=
  match schemaVersion.toList.splitOn '.' with
  | [major, minor, patch] =>
    if isPlainNumber major && isPlainNumber minor && isPlainNumber patch then
      if natOfDigits major = SUPPORTED_SYSTEM_READINESS_SCHEMA_MAJOR then none
      else some ("unsupported system readiness schema major " ++
        host.numberText (natOfDigits major))
    else some "schemaVersion must use major.minor.patch"
  | _ => some "schemaVersion must use major.minor.patch"

/-- The ids that a collection has twice. -/
def duplicateIdErrors (collectionName : String) : List String → List String → List String
  | _, [] => []
  | seen, id :: rest =>
    (if id ∈ seen then [collectionName ++ " contains duplicate ID " ++ id] else []) ++
      duplicateIdErrors collectionName (id :: seen) rest

/-- The ids that are referred to and not there. -/
def missingReferenceErrors (path : String) (referenceIds targetIds : List String) : List String :=
  (referenceIds.filter (· ∉ targetIds)).map fun id => path ++ " references unknown ID " ++ id

/-- `collection[index].field`. -/
def referencePath (collection field : String) (index : ℕ) : String :=
  collection ++ "[" ++ toString index ++ "]." ++ field

/-- What is wrong with the ids of a report. -/
def getSystemReadinessReferenceErrors (report : Report) : List String :=
  let capabilityIds := report.capabilities.map (·.id)
  duplicateIdErrors "observations" [] (report.observations.map (·.id)) ++
  duplicateIdErrors "capabilities" [] capabilityIds ++
  duplicateIdErrors "qualifications" [] (report.qualifications.map (·.id)) ++
  duplicateIdErrors "findings" [] (report.findings.map (·.id)) ++
  duplicateIdErrors "evidence" [] report.evidence ++
  (report.observations.zipIdx.flatMap fun (o, i) => missingReferenceErrors
    (referencePath "observations" "evidenceIds" i) o.evidenceIds report.evidence) ++
  (report.capabilities.zipIdx.flatMap fun (c, i) => missingReferenceErrors
    (referencePath "capabilities" "evidenceIds" i) c.evidenceIds report.evidence) ++
  (report.qualifications.zipIdx.flatMap fun (q, i) => missingReferenceErrors
    (referencePath "qualifications" "capabilityIds" i) q.capabilityIds capabilityIds) ++
  (report.findings.zipIdx.flatMap fun (f, i) =>
    missingReferenceErrors (referencePath "findings" "capabilityIds" i) f.capabilityIds
      capabilityIds ++
    missingReferenceErrors (referencePath "findings" "evidenceIds" i) f.evidenceIds
      report.evidence)

def STORAGE_COMPATIBLE_CAPABILITY : String := "host.docker.storage_compatible"
def STORAGE_REMEDIATION_CAPABILITY : String := "host.docker.storage_remediation_available"
def STORAGE_INCOMPATIBLE_FINDING : String := "host.docker.storage_incompatible"

/-- The only element that passes, if there is exactly one. -/
def only {α : Type} (p : α → Bool) (xs : List α) : Option α :=
  match xs.filter p with
  | [x] => some x
  | _ => none

/-- The state of a capability that the report has once. -/
def capabilityState (report : Report) (id : String) : Option ReadinessState :=
  (only (fun c : Capability => c.id == id) report.capabilities).map (·.state)

/-- The finding rules the node out. -/
def isBlocking (f : Finding) : Bool := f.severity = .fatal || f.severity = .blocking

/-- The one blocking finding is that the storage is incompatible, and it can be remedied. -/
def hasRemediableStorageConflict (report : Report) : Bool :=
  report.status = .incompatible && report.exitCode == 2 &&
    (only isBlocking report.findings).any (fun f =>
      f.id == STORAGE_INCOMPATIBLE_FINDING && f.severity = .blocking &&
        f.capabilityIds == [STORAGE_COMPATIBLE_CAPABILITY]) &&
    capabilityState report STORAGE_COMPATIBLE_CAPABILITY = some .absent &&
    capabilityState report STORAGE_REMEDIATION_CAPABILITY = some .present

/-- How far a report may be from the future. -/
def MAX_FUTURE_CLOCK_SKEW_MS : ℚ := 5000

/-- `[0-9A-Za-z]+(?:[.-][0-9A-Za-z]+)*`. -/
def identifiers : Pattern Char :=
  let word := Pattern.repeated (.letter isAlphanumeric) 1 none
  .seq word (.repeated (.seq (.letter fun c => c == '.' || c == '-') word) 0 none)

/-- A version of three numbers, with a pre-release and a build. -/
def PUBLIC_VERSION : Pattern Char :=
  let number := Pattern.repeated (.letter isDigit) 1 none
  let dot := Pattern.letter (· == '.')
  .all [.start, number, dot, number, dot, number,
    .optional (.seq (.letter (· == '-')) identifiers),
    .optional (.seq (.letter (· == '+')) identifiers), .stop]

/-- `/^[0-9a-f]{40,64}$/u`. -/
def isSourceRevision (s : String) : Bool :=
  decide (40 ≤ s.toList.length) && decide (s.toList.length ≤ 64) && s.toList.all isLowerHex

/-- The report is too old, or from too far in the future. -/
def isStale (host : Host) (observedAt : String) (nowMs maxAgeMs : ℚ) : Bool :=
  match host.dateParse observedAt with
  | none => true
  | some observedAt =>
    decide (maxAgeMs < nowMs - observedAt) ||
      decide (nowMs - observedAt < -MAX_FUTURE_CLOCK_SKEW_MS)

/-- Why a node's report cannot be used. -/
def readinessError (host : Host) (nowMs maxAgeMs : ℚ) (source : ReadinessSource) :
    Option String :=
  let report := source.report
  let at' := fun message => some (source.nodeId ++ ": " ++ message)
  if hasText source.nodeId = false then some "readiness node ID is empty"
  else match schemaVersionError host report.schemaVersion with
  | some reason => at' reason
  | none =>
    if report.mutated then at' "readiness report is not read-only"
    else if PUBLIC_VERSION.test report.nemoclawVersion.toList = false then
      at' "readiness producer version is invalid"
    else if isSourceRevision report.sourceRevision = false then
      at' "readiness source revision is invalid"
    else if isStale host report.observedAt nowMs maxAgeMs then
      at' "readiness report is stale or has an invalid observation time"
    else match getSystemReadinessReferenceErrors report with
    | error :: _ => at' error
    | [] =>
      let remediableStorage := hasRemediableStorageConflict report
      if (report.status ≠ .supported ∨ report.exitCode ≠ 0) ∧ remediableStorage = false then
        at' ("readiness status is " ++ report.status.text)
      else if report.findings.any isBlocking && !remediableStorage then
        at' "readiness report contains a blocking finding"
      else none

/-- Why the reports cannot be used. -/
def readinessReportsError (host : Host) (nowMs maxAgeMs : ℚ) (sources : List ReadinessSource) :
    Option String :=
  if (sources.map (·.nodeId)).Nodup then sources.findSome? (readinessError host nowMs maxAgeMs)
  else some "readiness reports contain duplicate node IDs"

/-! ## Requirements on readiness and facts -/

/-- The values are equal and no arrays or objects. -/
def scalarEquals : Value → Value → Bool
  | .null, .null => true
  | .bool b, .bool c => b == c
  | .num q, .num r => q == r
  | .str s, .str t => s == t
  | _, _ => false

/-- How a fact is compared. -/
inductive Operator where
  | equals
  | oneOf
  | atLeast
  | atMost
  | between
  deriving DecidableEq

/-- The fact compares so with what the requirement names. -/
def matchesOperator (actual : Value) : Operator → Value → Bool
  | .equals, expected => scalarEquals actual expected
  | .oneOf, .arr candidates => candidates.any (scalarEquals actual)
  | .atLeast, .num bound => actual.number?.any fun q => bound ≤ q
  | .atMost, .num bound => actual.number?.any fun q => q ≤ bound
  | .between, .arr [.num low, .num high] => actual.number?.any fun q => low ≤ q && q ≤ high
  | _, _ => false

/-- Of which nodes a requirement is. -/
inductive Scope where
  | controller
  | everyNode
  | anyNode

/-- The nodes of the scope satisfy the predicate; without nodes none does. -/
def readinessScopeMatches (scope : Scope) (reports : List ReadinessSource)
    (predicate : ReadinessSource → Bool) : Bool :=
  if reports.isEmpty then false
  else match scope with
  | .everyNode => reports.all predicate
  | .anyNode => reports.any predicate
  | .controller => false

/-- The parts of a dotted version, all of them safe integers. -/
def dottedVersion (s : String) : Option (List ℕ) :=
  let parts := s.toList.splitOn '.'
  if parts.all (fun part => !part.isEmpty && part.all isDigit) &&
      parts.all (fun part => natOfDigits part ≤ maxSafeInteger) then
    some (parts.map natOfDigits)
  else none

/-- Whether the first version is at least the second; missing parts are zero. -/
def versionAtLeast : List ℕ → List ℕ → Bool
  | [], [] => true
  | [], r :: rs => r == 0 && versionAtLeast [] rs
  | l :: ls, [] => 0 < l || versionAtLeast ls []
  | l :: ls, r :: rs => r < l || (l == r && versionAtLeast ls rs)

/-- How an observed value is compared. -/
inductive Comparison where
  | equals (value : Value)
  | oneOf (values : List Value)
  | atLeast (value : ℚ)
  | versionAtLeast (value : String)

/-- The observed value compares so. -/
def readinessComparisonMatches (actual : Value) : Comparison → Bool
  | .equals value => scalarEquals actual value
  | .oneOf values => values.any (scalarEquals actual)
  | .atLeast value => actual.number?.any fun q => value ≤ q
  | .versionAtLeast value => actual.string?.any fun s =>
      (dottedVersion s).any fun left => (dottedVersion value).any fun right =>
        versionAtLeast left right

/-- Whose state a requirement is about. -/
inductive StateKind where
  | observation
  | capability
  deriving DecidableEq

/-- What a requirement asks of the reports. -/
inductive ReadinessRequirement where
  | qualification (scope : Scope) (id status : String)
  | comparison (scope : Scope) (id : String) (comparison : Comparison)
  | state (scope : Scope) (kind : StateKind) (id state : String)

/-- What the requirement is about. -/
def ReadinessRequirement.id : ReadinessRequirement → String
  | qualification _ id _ | comparison _ id _ | state _ _ id _ => id

/-- The state of an observation that the report has once. -/
def observationState (report : Report) (id : String) : Option ReadinessState :=
  (only (fun o : Observation => o.id == id) report.observations).map (·.state)

/-- The storage may be incompatible where that can be remedied. -/
def readinessRequirementMatches (reports : List ReadinessSource) : ReadinessRequirement → Bool
  | .qualification scope id status => readinessScopeMatches scope reports fun source =>
      (only (fun q : Qualification => q.id == id) source.report.qualifications).any
        fun q => q.status.text == status
  | .comparison scope id comparison => readinessScopeMatches scope reports fun source =>
      (only (fun o : Observation => o.id == id) source.report.observations).any fun o =>
        o.state = .present && readinessComparisonMatches o.value comparison
  | .state scope kind id state => readinessScopeMatches scope reports fun source =>
      ((match kind with
        | .observation => observationState source.report id
        | .capability => capabilityState source.report id).any
          fun s : ReadinessState => s.text == state) ||
      (kind = .capability && id == STORAGE_COMPATIBLE_CAPABILITY && state == "present" &&
        hasRemediableStorageConflict source.report)

/-- A requirement on a fact about the cluster. -/
structure FactRequirement where
  fact : String
  state : ReadinessState
  operator : Operator
  value : Value

/-- The one fact there is: the number of nodes. -/
def selectionFact (path : String) (reports : List ReadinessSource) : Option Value :=
  if path = "cluster.nodeCount" then some (.num reports.length) else none

/-- The fact is present and compares as required. -/
def factRequirementMatches (requirement : FactRequirement) (reports : List ReadinessSource) :
    Bool :=
  (selectionFact requirement.fact reports).any fun value =>
    requirement.state = .present && matchesOperator value requirement.operator requirement.value

end NemoClaw.Serving
