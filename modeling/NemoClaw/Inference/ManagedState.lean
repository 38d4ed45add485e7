import NemoClaw.Js.Text
import NemoClaw.Onboard.PrivateFiles

/- The state of the managed llama.cpp runtime.

A gateway has one owner, one API key and one receipt, each in a file that is published
once, by a link, and never replaced. A file that is still linked at its temporary name
is refused by every reader.

Correspondence (inference/llama-cpp/managed-state.ts ↔ Lean): the functions keep their
names. The state directory is there and private. A file that was written by the store
stands for its text: the owner, the key or the receipt. `canonicalReceipt` is what
`parseHostLocalInferenceReceipt` makes of a text, written out again. The second fstat of
a read sees the file as it is then. Calls that change no name and no contents are left
out.
-/
namespace NemoClaw.ManagedState

open Js CallTree PrivateFiles

/-- `MANAGED_LLAMA_CPP_API_KEY_FILE`, `MANAGED_LLAMA_CPP_OWNER_FILE` and
`MANAGED_LLAMA_CPP_RECEIPT_FILE`. -/
inductive StateFile where
  | apiKey
  | owner
  | receipt
  deriving DecidableEq

/-- `ManagedLlamaCppOwner`, less its schema version, which is constant. -/
structure Owner where
  sandboxName : String
  catalogDigest : String
  presetDigest : String
  recipeDigest : String
  recipeId : String
  deriving DecidableEq

/-- What is in a file. -/
inductive Text where
  | owner (owner : Owner)
  /-- a key and the end of the line -/
  | apiKey (value : String)
  | receipt (serialized : String)
  deriving DecidableEq

def isSafeSandboxName : String → Bool :=
  isNameOf isAlphanumeric (fun c => isAlphanumeric c || c ∈ ['.', '_', '-']) 127

def isSafeRecipeId : String → Bool :=
  isNameOf (fun c => isLower c || isDigit c)
    (fun c => isLower c || isDigit c || c ∈ ['.', '_', '-']) 159

/-- What `normalizeOwner` asks of an owner. -/
def Owner.isNormal (owner : Owner) : Bool :=
  isSafeSandboxName owner.sandboxName && isSafeRecipeId owner.recipeId &&
    isSha256Digest owner.catalogDigest && isSha256Digest owner.presetDigest &&
    isSha256Digest owner.recipeDigest

def invalid {α : Type} (message : String) : Except Failure α := .error (.invalid message)

def normalizeOwner (value : Owner) : Except Failure Owner :=
  if value.isNormal then .ok value else invalid "Managed llama.cpp owner state is malformed."

abbrev Step (α : Type) := Program StateFile Text α

/-- The second fstat finds the file as it was. -/
def sameDuringRead (before : File Text) (after : Option (File Text)) :
    Except Failure (Option Text) :=
  if after ≠ some before then invalid "Managed llama.cpp state changed during its read."
  else .ok (some before.content)

def readPrivateFile (target : StateFile) : Step (Option Text) := do
  match ← readSync target with
  | none => return none
  | some before =>
    if before.nlink ≠ 1 then
      fail "Managed llama.cpp state is not an owner-only regular file."
    else
      let after ← readSync target
      .lift (sameDuringRead before after)

/-- The temporary name is removed, and the answer goes to the caller. -/
def finallyCleanup (target : StateFile) (n : ℕ) (r : Except Failure Bool) : Step Bool := do
  cleanup target n
  .lift r

def publishExclusive (target : StateFile) (value : Text) : Step Bool := do
  let n ← openSync target
  writeFileSync target n value
  if ← linkSync target n value then
    if ← unlinkTemporary target n then finallyCleanup target n (.ok true)
    else finallyCleanup target n (.error .noEntry)
  else finallyCleanup target n (.ok false)

/-- `ManagedLlamaCppOwnerReservation`. -/
structure OwnerReservation where
  owner : Owner
  created : Bool
  deriving DecidableEq

/-- `JSON.parse` and `normalizeOwner`, on the text of the owner file. -/
def parseOwner : Text → Except Failure Owner
  | .owner owner => normalizeOwner owner
  | _ => invalid "Managed llama.cpp owner state is unreadable."

def loadManagedLlamaCppOwner : Step (Option Owner) := do
  match ← readPrivateFile .owner with
  | none => return none
  | some serialized => .lift ((parseOwner serialized).map some)

/-- The file is another owner's. -/
def reservedByOther : Step OwnerReservation := do
  let current ← loadManagedLlamaCppOwner
  fail ("Managed llama.cpp on this gateway is already reserved by sandbox '" ++
    (current.map (·.sandboxName)).getD "unknown" ++ "'.")

/-- After an exclusive publication that found the name taken. -/
def racedOwner (owner : Owner) (raced : Option Text) : Except Failure OwnerReservation :=
  if raced = some (.owner owner) then .ok ⟨owner, false⟩
  else invalid "Managed llama.cpp on this gateway was reserved concurrently."

def publishOwner (owner : Owner) : Step OwnerReservation := do
  if ← publishExclusive .owner (.owner owner) then return ⟨owner, true⟩
  else
    let raced ← readPrivateFile .owner
    .lift (racedOwner owner raced)

def claimManagedLlamaCppOwner (ownerValue : Owner) : Step OwnerReservation := do
  let owner ← Tree.lift (normalizeOwner ownerValue)
  match ← readPrivateFile .owner with
  | some existing =>
    if existing = .owner owner then return ⟨owner, false⟩ else reservedByOther
  | none => publishOwner owner

def exactApiKey : Option Text → Except Failure String
  | some (.apiKey value) =>
    if isSha256 value then .ok value
    else invalid "Managed llama.cpp API-key state is malformed."
  | _ => invalid "Managed llama.cpp API-key state is malformed."

def publishApiKey (value : String) : Step String := do
  if ← publishExclusive .apiKey (.apiKey value) then return value
  else
    let raced ← readPrivateFile .apiKey
    .lift (exactApiKey raced)

abbrev RandomKey := { s : String // isSha256 s }

/-- `value` is what `randomBytes` returns, if it is asked. -/
def loadOrCreateManagedLlamaCppApiKey (value : RandomKey) : Step String := do
  match ← readPrivateFile .apiKey with
  | some existing => .lift (exactApiKey (some existing))
  | none => publishApiKey value.val

section Receipt

variable (canonicalReceipt : String → Except Failure String)

/-- What is there already, or was put there meanwhile. -/
def sameReceipt (canonical : String) (existing : Option Text) (message : String) :
    Except Failure String :=
  if existing = some (.receipt canonical) then .ok canonical else invalid message

def publishReceipt (canonical : String) : Step String := do
  if ← publishExclusive .receipt (.receipt canonical) then return canonical
  else
    let raced ← readPrivateFile .receipt
    .lift (sameReceipt canonical raced "Managed llama.cpp receipt target changed concurrently.")

def requireCanonical (serializedReceipt : String) : Except Failure String := do
  let canonical ← canonicalReceipt serializedReceipt
  if canonical ≠ serializedReceipt then invalid "Managed llama.cpp receipt is not canonical."
  else return canonical

def writeExact (serializedReceipt : String) : Step String := do
  let canonical ← Tree.lift (requireCanonical canonicalReceipt serializedReceipt)
  match ← readPrivateFile .receipt with
  | some existing => .lift (sameReceipt canonical (some existing)
      "Managed llama.cpp receipt target already contains different authority.")
  | none => publishReceipt canonical

/-- `createManagedLlamaCppReceiptWriter`, and a call of `writeExact` of the writer. -/
def writeReceipt (transactionId serializedReceipt : String) : Step String :=
  if isSha256 transactionId then writeExact canonicalReceipt serializedReceipt
  else fail "Managed llama.cpp receipt transaction identity is malformed."

inductive Operation where
  | claim (owner : Owner)
  | apiKey (value : RandomKey)
  | receipt (transactionId serializedReceipt : String)

inductive Returned where
  | owner (reservation : OwnerReservation)
  | apiKey (value : String)
  | receipt (canonical : String)
  deriving DecidableEq

def Operation.program : Operation → Step Returned
  | claim owner => do return .owner (← claimManagedLlamaCppOwner owner)
  | apiKey value => do return .apiKey (← loadOrCreateManagedLlamaCppApiKey value)
  | receipt transactionId serialized => do
    return .receipt (← writeReceipt canonicalReceipt transactionId serialized)

end Receipt

end NemoClaw.ManagedState
