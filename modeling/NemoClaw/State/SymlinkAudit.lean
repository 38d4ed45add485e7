import NemoClaw.Lib.FileTree

/- The audit of an extracted backup for links that lead out of it.

After a tar archive has been extracted, every symbolic link is looked at: its target is
resolved in the text, against the directory of the link, and has to lie in one of the
allowed roots. Links that the images bring along are let through.

Correspondence (src/lib/state/sandbox.ts and openclaw-managed-extensions.ts ↔ Lean): the
functions keep their names. A path is held as the list of its names, so `path.resolve` is
`FileTree.resolve`, a relative path that starts with `../` is a list that starts with
`..`, and the platform is POSIX. What is thrown is the error of the list of a directory, or
of the calls on an entry; where the source catches it, the entry is skipped.
-/
namespace NemoClaw.SymlinkAudit

open FileTree

/-- `path.relative`, of paths that are resolved. -/
def relative : Path → Path → Path
  | [], candidate => candidate
  | root, [] => root.map fun _ => ".."
  | name :: root, name' :: candidate =>
    if name = name' then relative root candidate
    else ((name :: root).map fun _ => "..") ++ (name' :: candidate)

def startsWith (start text : String) : Bool := start.toList.isPrefixOf text.toList

/-- `isWithinRoot`. A name that starts with two dots counts as a way out. -/
def isWithinRoot (candidatePath rootPath : Path) : Bool :=
  let path := relative rootPath candidatePath
  path == [] || !path.head?.any (startsWith "..")

/-- The names of `path.posix.normalize`, which keeps `..` at the start of a relative path. -/
def normalizeNames (allowAboveRoot : Bool) (names : List String) : List String :=
  names.foldl (fun done part =>
    if part = "" ∨ part = "." then done
    else if part = ".." then
      if done ≠ [] ∧ done.getLast? ≠ some ".." then done.dropLast
      else if allowAboveRoot then done ++ [".."] else done
    else done ++ [part]) []

def print (path : Path) : String := "/" ++ "/".intercalate path

/-! ## Links of the images -/

def auditSymlinkWhitelist : List (Path × String) :=
  [(["extensions", "openclaw-weixin", "node_modules", ".bin", "qrcode-terminal"],
    "../qrcode-terminal/bin/qrcode-terminal.js")]

def openclawImagePackagePaths : List String :=
  ["/usr/local/lib/node_modules/openclaw",
    "/usr/local/lib/nemoclaw/openclaw-runtime/node_modules/openclaw"]

def isIdStart (c : Char) : Bool :=
  ('A' ≤ c && c ≤ 'Z') || ('a' ≤ c && c ≤ 'z') || ('0' ≤ c && c ≤ '9')

/-- `[A-Za-z0-9][A-Za-z0-9._-]*`. -/
def isExtensionId (name : String) : Bool :=
  match name.toList with
  | c :: rest => isIdStart c && rest.all fun c => isIdStart c || c ∈ ['.', '_', '-']
  | [] => false

/-- `EXTENSION_NPM_BIN_RE`. -/
def extensionNpmBin : Path → Bool
  | ["extensions", id, "node_modules", ".bin", name] => isExtensionId id && name ≠ ""
  | _ => false

/-- `OPENCLAW_EXTENSION_PEER_LINK_RE`. -/
def openclawExtensionPeerLink : Path → Bool
  | ["extensions", id, "node_modules", "openclaw"] => isExtensionId id
  | _ => false

section

-- `process.cwd()`, against which relative paths are compared
variable (cwd : Path)

def isAllowedExtensionNpmBinSymlink (relPath : Path) (linkTarget : String) : Bool :=
  if !extensionNpmBin relPath then false
  else if linkTarget = "" || '%' ∈ linkTarget.toList || isAbsolute linkTarget then false
  else
    let binDir := relPath.dropLast
    let nodeModulesDir := binDir.dropLast
    let resolvedTarget := normalizeNames true (binDir ++ parts linkTarget)
    let targetWithinNodeModules := relative (lexical cwd nodeModulesDir) (lexical cwd resolvedTarget)
    targetWithinNodeModules != [] && targetWithinNodeModules.head? != some ".." &&
      !(targetWithinNodeModules.head? == some ".bin" && targetWithinNodeModules.tail != [])

def isAllowedOpenClawExtensionPeerSymlink (relPath : Path) (linkTarget : String) : Bool :=
  openclawExtensionPeerLink relPath && linkTarget ∈ openclawImagePackagePaths

def isAllowedStateSymlink (relPath : Path) (linkTarget : String) : Bool :=
  match auditSymlinkWhitelist.lookup relPath with
  | some exactTarget => exactTarget == linkTarget
  | none =>
    isAllowedOpenClawExtensionPeerSymlink relPath linkTarget ||
      isAllowedExtensionNpmBinSymlink cwd relPath linkTarget

/-- `SANDBOX_DATA_PREFIXES`, each of which ends in a slash. -/
def sandboxDataPrefixes : List Path := [["sandbox", ".openclaw-data"], ["sandbox", ".hermes-data"]]

def startsWithDir (linkTarget : String) (dir : Path) : Bool :=
  let names := normalizeNames false (parts linkTarget)
  dir.isPrefixOf names && (dir.length < names.length || linkTarget.toList.getLast? == some '/')

-- whether `lstat` of the path, and `readlink` of a link, do not throw: it is too long, say, or
-- its name is no UTF-8
variable (looks : Path → Bool)

variable (dirPath : Path) (allowedRoots : List Path)

/-- The target as it lies below the extraction, if it is one in the data of the sandbox. -/
def resolvedInArchive (linkTarget : String) : Option Path :=
  if isAbsolute linkTarget && sandboxDataPrefixes.any (startsWithDir linkTarget) then
    some (lexical dirPath (normalizeNames false (parts linkTarget)))
  else none

def inAnyAllowedRoot (dir : Path) (linkTarget : String) : Bool :=
  allowedRoots.any (isWithinRoot (resolve dir linkTarget)) ||
    (resolvedInArchive dirPath linkTarget).any fun path => isWithinRoot path dirPath

def auditLink (fullPath : Path) (linkTarget : String) : List String :=
  if isAllowedStateSymlink cwd (relative dirPath fullPath) linkTarget then []
  else if inAnyAllowedRoot dirPath allowedRoots fullPath.dropLast linkTarget then []
  else ["symlink escape: " ++ print fullPath ++ " -> " ++ linkTarget ++ " (resolves to " ++
    print (resolve fullPath.dropLast linkTarget) ++ ")"]

mutual

/-- One entry. A directory that cannot be listed or searched is skipped. -/
def walkNode (fullPath : Path) : Node → List String
  | .file => []
  | .link linkTarget => auditLink cwd dirPath allowedRoots fullPath linkTarget
  | .dir mode entries =>
    if mode.readable && mode.searchable then walkEntries fullPath entries else []

def walkEntries (current : Path) : Entries → List String
  | .nil => []
  | .cons name node rest =>
    (if looks (current ++ [name.text]) then walkNode (current ++ [name.text]) node else []) ++
      walkEntries current rest

end

end

end NemoClaw.SymlinkAudit
