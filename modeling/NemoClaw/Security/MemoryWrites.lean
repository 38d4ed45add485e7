import NemoClaw.Js.Json
import NemoClaw.Lib.LexicalPath
import NemoClaw.Security.SensitiveText

/- Secrets that are kept out of the memory of a workspace.

Before a tool call is made, the plugin looks at the path and the text that a write tool is
given. A write to a persistent memory location is blocked if a pattern of a secret matches
the text.

Correspondence (nemoclaw/src/index.ts, security/secret-scanner.ts and
security/safe-resolve-path.ts ↔ Lean): definitions keep the source's names, and the hook is
`beforeToolCall`; what it logs is left out. The host's resolver is a parameter that may be
missing, may throw and may return nothing. The patterns are read as those of
`SecretPatterns` are, each with its source in front of it.

What is proved:
  1. `isMemoryPath_spelling` — spellings that lead to one location get one answer.
  2. `scanForSecrets_iff` — something is found exactly if some pattern matches.
  3. `beforeToolCall_blocks_iff` — a secret is kept out unless an earlier parameter hides
     the path or the text.
-/
namespace NemoClaw.Security

open Js Pattern LexicalPath List

/-- `(?!word)[...]{least,}`, for a shorter word of the class. -/
def atLeastUnless (word : String) (least : ℕ) (p : ℕ → Bool) : UnitPattern :=
  any ((units word).zipIdx.map fun (u, i) => all [exactly ((units word).take i),
    letter fun v => p v && v ≠ u, atLeast (least - (i + 1)) p])

/-- `\s*[...]\s*`. -/
def spaced (separators : String) : UnitPattern :=
  all [atLeast 0 isSpaceUnit, letter (· ∈ units separators), atLeast 0 isSpaceUnit]

/-- `SECRET_PATTERNS`. -/
def memorySecretPatterns : List (String × UnitPattern) :=
  [ -- /\bnvapi-[A-Za-z0-9_-]{20,}\b/
    ("NVIDIA API key", all [wordBoundary, text "nvapi-", atLeast 20 isKeyUnit, wordBoundary]),
    -- /\bsk-(?!ant-)[A-Za-z0-9_-]{20,}\b/
    ("OpenAI API key", all [wordBoundary, text "sk-", atLeastUnless "ant-" 20 isKeyUnit,
      wordBoundary]),
    -- /\b(ghp|gho|ghu|ghs|ghr|github_pat)_[A-Za-z0-9]{36,}\b/
    ("GitHub token", all [wordBoundary, oneOf ["ghp", "gho", "ghu", "ghs", "ghr", "github_pat"],
      text "_", atLeast 36 isAlnumUnit, wordBoundary]),
    -- /\bAKIA[0-9A-Z]{16}\b/
    ("AWS access key", all [wordBoundary, text "AKIA",
      exact 16 fun u => isDigitUnit u || isUpperUnit u, wordBoundary]),
    -- /(?<=aws_secret_access_key\s*[=:]\s*)[A-Za-z0-9/+=]{40}\b/i
    ("AWS secret key", all [behind (seq (textI "aws_secret_access_key") (spaced "=:")),
      exact 40 (orIn isAlnumUnit "/+="), wordBoundary]),
    -- /\b(?:xox[bpas]|xapp)-[A-Za-z0-9-]{10,}\b/
    ("Slack token", all [wordBoundary, oneOf ["xoxb", "xoxp", "xoxa", "xoxs", "xapp"], text "-",
      atLeast 10 (orIn isAlnumUnit "-"), wordBoundary]),
    -- /(?<=(?:discord|bot|DISCORD_TOKEN|BOT_TOKEN|token)\s*[=:]\s*["']?)
    --  [A-Za-z0-9]{24}\.[A-Za-z0-9_-]{6}\.[A-Za-z0-9_-]{27,}/
    ("Discord bot token", all [
      behind (all [oneOf ["discord", "bot", "DISCORD_TOKEN", "BOT_TOKEN", "token"], spaced "=:",
        quoteMark]),
      exact 24 isAlnumUnit, text ".", exact 6 isKeyUnit, text ".", atLeast 27 isKeyUnit]),
    -- /\bnpm_[A-Za-z0-9]{36,}\b/
    ("npm token", all [wordBoundary, text "npm_", atLeast 36 isAlnumUnit, wordBoundary]),
    -- /-----BEGIN\s+(RSA |EC |DSA |OPENSSH )?PRIVATE KEY-----/
    ("Private key", all [text "-----BEGIN", atLeast 1 isSpaceUnit,
      optional (oneOf ["RSA ", "EC ", "DSA ", "OPENSSH "]), text "PRIVATE KEY-----"]),
    -- /(?<=(?:Authorization\s*:\s*Bearer|Bearer\s*[=:])\s*["']?)[A-Za-z0-9._~+/=-]{40,}/i
    ("Authorization header", all [
      behind (all [
        alt (all [textI "Authorization", spaced ":", textI "Bearer"])
          (all [textI "Bearer", atLeast 0 isSpaceUnit, letter (· ∈ units "=:")]),
        atLeast 0 isSpaceUnit, quoteMark]),
      atLeast 40 (orIn isAlnumUnit "._~+/=-")]),
    -- /\b\d{8,10}:[A-Za-z0-9_-]{35}\b/
    ("Telegram bot token", all [wordBoundary, between 8 10 isDigitUnit, text ":",
      exact 35 isKeyUnit, wordBoundary]),
    -- /\bAIza[0-9A-Za-z_-]{35}\b/
    ("Google API key", all [wordBoundary, text "AIza", exact 35 isKeyUnit, wordBoundary]),
    -- /\bsk-ant-[A-Za-z0-9_-]{20,}\b/
    ("Anthropic API key", all [wordBoundary, text "sk-ant-", atLeast 20 isKeyUnit, wordBoundary]),
    -- /\bhf_[A-Za-z0-9]{20,}\b/
    ("HuggingFace token", all [wordBoundary, text "hf_", atLeast 20 isAlnumUnit, wordBoundary]) ]

structure SecretMatch where
  pattern : String
  redacted : String
  deriving DecidableEq

/-- The matches at the cursor and after it, as `matchAll` finds them; there are at most so many
letters left. Behind an empty match the next letter is passed over. -/
def matchesFrom (r : UnitPattern) : ℕ → Cursor ℕ → List (List ℕ)
  | n, c =>
    match n, c.after, matchEnd true r c with
    | n + 1, x :: rest, none => matchesFrom r n ⟨x :: c.before, rest⟩
    | n + 1, x :: rest, some e =>
      if e.after.length = rest.length + 1 then [] :: matchesFrom r n ⟨x :: c.before, rest⟩
      else (x :: rest).take (rest.length + 1 - e.after.length) :: matchesFrom r n e
    | _, _, some _ => [[]]
    | _, _, none => []

def matchAll (r : UnitPattern) (content : List ℕ) : List (List ℕ) :=
  matchesFrom r content.length ⟨[], content⟩

def redactedMatch (name : String) (value : List ℕ) : SecretMatch where
  pattern := name
  redacted :=
    if value.length > 8 then
      String.ofList (ofUnits (value.take 4)) ++ ".." ++
        String.ofList (ofUnits (value.drop (value.length - 4)))
    else "****"

def unseenMatches : List String → List (String × List ℕ) → List SecretMatch
  | _, [] => []
  | seen, (name, value) :: rest =>
    let key := name ++ ":" ++ String.ofList (ofUnits value)
    if key ∈ seen then unseenMatches seen rest
    else redactedMatch name value :: unseenMatches (key :: seen) rest

def scanForSecrets (content : String) : List SecretMatch :=
  unseenMatches [] (memorySecretPatterns.flatMap fun (name, r) =>
    (matchAll r (units content)).map fun value => (name, value))

/-! ## Memory paths -/

def memoryPathSegments : List String :=
  ["/.openclaw/memory/", "/.openclaw/workspace/", "/.openclaw/agents/", "/.openclaw/skills/",
    "/.openclaw/hooks/", "/.openclaw/credentials/", "/.openclaw/canvas/", "/.openclaw/identity/",
    "/.openclaw/cron/", "/.openclaw/telegram/", "/.openclaw/sandbox/", "/.openclaw/MEMORY.md",
    "/.openclaw/openclaw.json", "/.nemoclaw/"]

def memoryBasenames : List String :=
  ["IDENTITY.md", "MEMORY.md", "SOUL.md", "USER.md", "AGENTS.md"]

def memoryRelativePrefixes : List String := [".openclaw/", ".nemoclaw/", "memory/"]

/-- `WORKSPACE_MEMORY_PREFIX`: `/^workspace(?:-[^/]+)?\/memory(?:\/|$)/`. -/
def workspaceMemoryPrefix : UnitPattern :=
  all [start, text "workspace", optional (seq (text "-") (atLeast 1 (· ∉ units "/"))),
    text "/memory", alt (text "/") stop]

/-- `filePath.split("/")`. -/
def splitSlash (filePath : String) : List String :=
  (filePath.toList.splitOn '/').map String.ofList

/-- One part of the path, behind those before it. -/
def pushPart (isAbsolute : Bool) (parts : List String) (part : String) : List String :=
  if part = "" ∨ part = "." then parts
  else if part = ".." then
    if parts.getLast?.any (· ≠ "..") then parts.dropLast
    else if isAbsolute then parts else parts ++ [part]
  else parts ++ [part]

def normalizePathForMemoryClassification (filePath : String) : String :=
  let isAbsolute := isAbsolutePath filePath
  let parts := (splitSlash filePath).foldl (pushPart isAbsolute) []
  (if isAbsolute then "/" else "") ++ "/".intercalate parts

def dropLeadingParentSegments (filePath : String) : String :=
  let rec drop : List Char → List Char
    | '.' :: '.' :: '/' :: rest => drop rest
    | rest => rest
  String.ofList (drop filePath.toList)

/-- What stands behind the last slash. -/
def basenameOf (filePath : String) : String :=
  String.ofList (filePath.toList.reverse.takeWhile (· ≠ '/')).reverse

/-- `filePath.includes(segment)`. -/
def includes (filePath segment : String) : Bool :=
  filePath.toList.tails.any fun rest => segment.toList.isPrefixOf rest

def isMemoryText (normalizedPath : String) : Bool :=
  let normalizedRelativePath := dropLeadingParentSegments normalizedPath
  memoryPathSegments.any (includes normalizedPath) ||
    basenameOf normalizedPath ∈ memoryBasenames ||
    memoryRelativePrefixes.any
      (fun start => start.toList.isPrefixOf normalizedRelativePath.toList) ||
    workspaceMemoryPrefix.test (units normalizedRelativePath)

def isMemoryPath : Json → Bool
  | .str filePath =>
    filePath ≠ "" && isMemoryText (normalizePathForMemoryClassification filePath)
  | _ => false

/-- `api.resolvePath`, where the host has it. -/
structure PathHost where
  resolvePath : Option (String → Except String (Option String)) := none

def safeResolvePath (host : PathHost) (rawPath : String) : String :=
  match host.resolvePath with
  | none => rawPath
  | some resolve =>
    match resolve rawPath with
    | .ok (some resolved) => if resolved ≠ "" then resolved else rawPath
    | _ => rawPath

def writeToolNames : List String := ["write", "edit", "apply_patch", "notebook_edit"]

/-- `a ?? b`. -/
def coalesce (a b : Option Json) : Option Json :=
  match a with
  | none => b
  | some .null => b
  | some value => some value

def readBeforeToolCallEvent (event : Json) : Option (String × List (String × Json)) :=
  match readNonEmpty (event.get? "toolName"), event.get? "params" with
  | some toolName, some (.obj params) => some (toolName, params)
  | _, _ => none

/-- Of the result, `block` is always true. -/
structure BeforeToolCallResult where
  blockReason : String

def blockReasonOf (found : List SecretMatch) : String :=
  "Memory write blocked: detected " ++ toString found.length ++ " likely secret(s):\n" ++
    "\n".intercalate (found.map fun m => "  - " ++ m.pattern ++ " (" ++ m.redacted ++ ")") ++
    "\n\nRemove secrets before saving to persistent memory. " ++
    "Use environment variables or credential stores instead."

def beforeToolCall (host : PathHost) (event : Json) : Option BeforeToolCallResult := do
  let (toolName, params) ← readBeforeToolCallEvent event
  guard (jsToLowerCase toolName ∈ writeToolNames)
  let rawPath ← readNonEmpty (coalesce (params.lookup "file_path") (params.lookup "path"))
  guard (isMemoryPath (.str (safeResolvePath host rawPath)))
  let content ← readNonEmpty (coalesce (params.lookup "content")
    (coalesce (params.lookup "new_string") (params.lookup "patch")))
  let found := scanForSecrets content
  guard (found ≠ [])
  pure ⟨blockReasonOf found⟩

/-! ## Scanning finds what matches -/

lemma foldl_isSome {β : Type} {f : Option β → β → Option β} (h : ∀ b x, (f b x).isSome)
    (found : List β) (best : Option β) :
    (found.foldl f best).isSome ↔ best.isSome ∨ found ≠ [] := by
  induction found generalizing best with
  | nil => simp
  | cons x rest ih => rw [foldl_cons, ih]; simp [h]

lemma matchEnd_isSome {r : UnitPattern} {c : Cursor ℕ} :
    (matchEnd true r c).isSome ↔ r.ends c ≠ [] := by
  unfold matchEnd
  rw [foldl_isSome]
  · simp
  intro best e
  cases best with
  | none => rfl
  | some b =>
  simp only [if_true]
  split <;> rfl

lemma matchEnd_none_iff {r : UnitPattern} {c : Cursor ℕ} :
    matchEnd true r c = none ↔ r.ends c = [] := by
  rw [← Option.not_isSome_iff_eq_none, matchEnd_isSome, not_not]

lemma ends_ne_nil {r : UnitPattern} {c e : Cursor ℕ} (h : matchEnd true r c = some e) :
    r.ends c ≠ [] := matchEnd_isSome.mp (h ▸ rfl)

lemma matchesFrom_ne_nil (r : UnitPattern) (n : ℕ) (c : Cursor ℕ) (h : c.after.length ≤ n) :
    matchesFrom r n c ≠ [] ↔ ∃ d ∈ Cursor.forward c.before c.after, r.ends d ≠ [] := by
  induction n generalizing c with
  | zero =>
    have hafter : c.after = [] := length_eq_zero_iff.mp (Nat.le_zero.mp h)
    obtain ⟨before, after⟩ := c
    obtain rfl : after = [] := hafter
    unfold matchesFrom
    cases hend : matchEnd true r ⟨before, []⟩ with
    | none => simp [Cursor.forward, matchEnd_none_iff.mp hend]
    | some e => simp [Cursor.forward, ends_ne_nil hend]
  | succ n ih =>
    obtain ⟨before, after⟩ := c
    cases after with
    | nil =>
      unfold matchesFrom
      cases hend : matchEnd true r ⟨before, []⟩ with
      | none => simp [Cursor.forward, matchEnd_none_iff.mp hend]
      | some e => simp [Cursor.forward, ends_ne_nil hend]
    | cons x rest =>
      unfold matchesFrom
      cases hend : matchEnd true r ⟨before, x :: rest⟩ with
      | none =>
        rw [ih ⟨x :: before, rest⟩ (Nat.le_of_succ_le_succ h)]
        simp [Cursor.forward, matchEnd_none_iff.mp hend]
      | some e =>
        refine iff_of_true ?_ ⟨_, mem_cons_self, ends_ne_nil hend⟩
        dsimp only
        split <;> simp

lemma matchAll_ne_nil (r : UnitPattern) (content : List ℕ) :
    matchAll r content ≠ [] ↔ r.test content := by
  unfold matchAll
  rw [matchesFrom_ne_nil r content.length ⟨[], content⟩ le_rfl]; simp [Pattern.test]

lemma unseenMatches_nil_ne_nil {found : List (String × List ℕ)} :
    unseenMatches [] found ≠ [] ↔ found ≠ [] := by
  cases found <;> simp [unseenMatches]

def HasSecretText (content : String) : Prop :=
  ∃ entry ∈ memorySecretPatterns, entry.2.test (units content)

/-- Something is reported exactly if a pattern matches. -/
theorem scanForSecrets_iff (content : String) :
    scanForSecrets content ≠ [] ↔ HasSecretText content := by
  unfold scanForSecrets HasSecretText
  rw [unseenMatches_nil_ne_nil]
  constructor
  · intro hne
    obtain ⟨found, hfound⟩ := exists_mem_of_ne_nil _ hne
    obtain ⟨entry, hentry, hmem⟩ := mem_flatMap.mp hfound
    refine ⟨entry, hentry, (matchAll_ne_nil _ _).mp ?_⟩
    intro hnone
    dsimp only at hmem
    rw [hnone] at hmem; cases hmem
  · rintro ⟨entry, hentry, htest⟩ hnone
    have hmatches := flatMap_eq_nil_iff.mp hnone entry hentry
    exact (matchAll_ne_nil _ _).mpr htest (map_eq_nil_iff.mp hmatches)

def segmentOf (part : String) : Segment String :=
  if part = "" ∨ part = "." then .here else if part = ".." then .up else .name part

/-- Where a path leads when its parts are followed. -/
def locationOf (filePath : String) : Location String :=
  (Location.start (isAbsolutePath filePath)).follow ((splitSlash filePath).map segmentOf)

def partsOf (l : Location String) : List String :=
  (match l.base with
    | .root => []
    | .above levels => List.replicate levels "..") ++ l.names

section Spelling

variable {l : Location String} {isAbsolute : Bool}

lemma getLast?_partsOf (hnames : ".." ∉ l.names) :
    (partsOf l).getLast?.any (· ≠ "..") = decide (l.names ≠ []) := by
  unfold partsOf
  cases hlast : l.names.getLast? with
  | some name =>
    have hne : l.names ≠ [] := by
      rintro hnil
      rw [hnil] at hlast; cases hlast
    have hname : name ≠ ".." := by
      rintro rfl; exact hnames (mem_of_getLast? hlast)
    rw [List.getLast?_append, hlast]; simp [hname, hne]
  | none =>
    rw [List.getLast?_eq_none_iff.mp hlast, append_nil]
    cases l.base with
    | root => rfl
    | above levels =>
      cases levels with
      | zero => rfl
      | succ levels => simp [List.getLast?_replicate]

/-- A part is put behind the others as the location is followed. -/
lemma pushPart_partsOf (hnames : ".." ∉ l.names) (habsolute : isAbsolute ↔ l.base = .root)
    (part : String) :
    pushPart isAbsolute (partsOf l) part = partsOf (l.step (segmentOf part)) := by
  unfold pushPart segmentOf
  split
  · rfl
  split
  · next hup =>
    rw [getLast?_partsOf hnames, Location.step_up]
    by_cases hempty : l.names = []
    · rw [if_neg (by simp [hempty]), if_pos hempty]
      unfold partsOf
      rw [hempty, hup]
      cases hbase : l.base with
      | root => simp [habsolute.mpr hbase, Base.parent]
      | above levels =>
      have hrelative : isAbsolute = false := by
        rw [Bool.eq_false_iff, ne_eq, habsolute, hbase]; simp
      simp [hrelative, Base.parent, replicate_succ']
    · rw [if_pos (by simp [hempty]), if_neg hempty]
      unfold partsOf
      rw [dropLast_append_of_ne_nil hempty]
  · unfold partsOf
    rw [append_assoc]; rfl

lemma segmentOf_ne_parent (part : String) : segmentOf part ≠ .name ".." := by
  unfold segmentOf
  split
  · simp
  · split
    · simp
    · next hup => simpa using hup

lemma foldl_pushPart (hnames : ".." ∉ l.names)
    (habsolute : isAbsolute ↔ l.base = .root) (parts : List String) :
    parts.foldl (pushPart isAbsolute) (partsOf l) = partsOf (l.follow (parts.map segmentOf)) := by
  induction parts generalizing l with
  | nil => rfl
  | cons part parts ih =>
    rw [foldl_cons, pushPart_partsOf hnames habsolute, map_cons, Location.follow_cons]
    refine ih ?_ (habsolute.trans (Location.base_step l _).symm)
    intro hmem
    obtain hold | hnew : _ ∨ .name _ ∈ [segmentOf part] := Location.mem_names_follow hmem
    · exact hnames hold
    · exact segmentOf_ne_parent part (mem_singleton.mp hnew).symm

end Spelling

lemma normalizePath_eq (filePath : String) :
    normalizePathForMemoryClassification filePath =
      (if (locationOf filePath).base = .root then "/" else "") ++
        "/".intercalate (partsOf (locationOf filePath)) := by
  have habsolute : isAbsolutePath filePath ↔
      (Location.start (isAbsolutePath filePath) : Location String).base = .root := by
    unfold Location.start
    cases isAbsolutePath filePath <;> simp
  have hparts := foldl_pushPart (l := Location.start (isAbsolutePath filePath))
    (by simp [Location.start]) habsolute (splitSlash filePath)
  have hstart : partsOf (Location.start (isAbsolutePath filePath)) = [] := by
    cases isAbsolutePath filePath <;> rfl
  rw [hstart] at hparts
  unfold normalizePathForMemoryClassification
  dsimp only
  rw [hparts]
  congr 1; exact if_congr (habsolute.trans (Location.base_follow _ _).symm) rfl rfl

/-- A part that goes down to a name. -/
structure PlainPart (part : String) : Prop where
  nonempty : part ≠ ""
  not_dot : part ≠ "."
  not_parent : part ≠ ".."
  no_slash : '/' ∉ part.toList

lemma plainPart_of_location {filePath name : String} (h : name ∈ (locationOf filePath).names) :
    PlainPart name := by
  rcases Location.mem_names_follow h with hstart | hpart
  · simp [Location.start] at hstart
  obtain ⟨part, hmem, hsegment⟩ := mem_map.mp hpart
  unfold segmentOf at hsegment
  split at hsegment
  · cases hsegment
  next hstay =>
  split at hsegment
  · cases hsegment
  next hup =>
  cases hsegment
  obtain ⟨chars, hchars, rfl⟩ := mem_map.mp hmem
  refine ⟨fun heq => hstay (.inl heq), fun heq => hstay (.inr heq), hup, ?_⟩
  rw [String.toList_ofList]; exact notMem_of_mem_splitOn '/' hchars

lemma segmentOf_plain {part : String} (h : PlainPart part) : segmentOf part = .name part := by
  unfold segmentOf
  rw [if_neg (by simp [h.nonempty, h.not_dot]), if_neg h.not_parent]

lemma toList_joinSlash (parts : List String) :
    ("/".intercalate parts).toList = ['/'].intercalate (parts.map String.toList) := by
  simp [String.toList_intercalate]

lemma splitSlash_join {parts : List String} (hne : parts ≠ [])
    (hfree : ∀ part ∈ parts, '/' ∉ part.toList) :
    splitSlash ("/".intercalate parts) = parts := by
  unfold splitSlash
  rw [toList_joinSlash]; exact splitOn_intercalate '/' hne hfree

lemma isAbsolutePath_join {part : String} (hne : part ≠ "") (hfree : '/' ∉ part.toList)
    (parts : List String) : isAbsolutePath ("/".intercalate (part :: parts)) = false := by
  cases hchars : part.toList with
  | nil => exact absurd (String.toList_eq_nil_iff.mp hchars) hne
  | cons c cs =>
  have hc : c ≠ '/' := by
    rintro rfl; exact hfree (hchars ▸ mem_cons_self)
  unfold isAbsolutePath
  rw [toList_joinSlash, map_cons, hchars]
  cases parts with
  | nil => simp [hc]
  | cons next parts => simp [hc, intercalate_cons_cons]

lemma map_segmentOf_partsOf {l : Location String} (h : ∀ name ∈ l.names, PlainPart name) :
    (partsOf l).map segmentOf = l.segments := by
  have hnames : l.names.map segmentOf = l.names.map .name :=
    map_congr_left fun name hname => segmentOf_plain (h name hname)
  unfold partsOf Location.segments
  rw [map_append, hnames]
  cases l.base with
  | root => rfl
  | above levels => rw [map_replicate]; rfl

lemma locationOf_normalizePath (filePath : String) :
    locationOf (normalizePathForMemoryClassification filePath) = locationOf filePath := by
  rw [normalizePath_eq]
  have hplain : ∀ name ∈ (locationOf filePath).names, PlainPart name :=
    fun name hname => plainPart_of_location hname
  generalize locationOf filePath = l at hplain ⊢
  have hsegments := map_segmentOf_partsOf hplain
  have hfollow := Location.follow_segments l
  have hfree : ∀ part ∈ partsOf l, '/' ∉ part.toList ∧ part ≠ "" := by
    intro part hpart
    rcases mem_append.mp hpart with hup | hname
    · cases hbase : l.base with
      | root => rw [hbase] at hup; cases hup
      | above levels =>
        rw [hbase] at hup
        rw [(mem_replicate.mp hup).2]; decide
    · exact ⟨(hplain part hname).no_slash, (hplain part hname).nonempty⟩
  cases hbase : l.base with
  | root =>
    rw [hbase, decide_eq_true rfl] at hfollow
    rw [if_pos rfl]
    have habsolute : isAbsolutePath ("/" ++ "/".intercalate (partsOf l)) := by
      unfold isAbsolutePath
      rw [String.toList_append]; rfl
    -- The slash in front is an empty part before the others.
    have hsplit : splitSlash ("/" ++ "/".intercalate (partsOf l)) =
        "" :: splitSlash ("/".intercalate (partsOf l)) := by
      unfold splitSlash
      rw [String.toList_append]
      show ((['/'] ++ _).splitOn '/').map String.ofList = _
      rw [singleton_append, splitOn_cons_eq_if_modifyHead, if_pos (by decide)]
      rfl
    unfold locationOf
    rw [habsolute, hsplit]
    show Location.follow (Location.start true) (.here :: _) = l
    rw [Location.follow_cons]
    cases hparts : partsOf l with
    | nil =>
      rw [hparts] at hsegments
      rw [← hsegments] at hfollow; exact hfollow
    | cons part parts =>
      rw [← hparts, splitSlash_join (by rw [hparts]; simp) fun part hpart => (hfree part hpart).1,
        hsegments]
      exact hfollow
  | above levels =>
    rw [hbase, decide_eq_false (by simp)] at hfollow
    rw [if_neg (by simp), String.empty_append]
    unfold locationOf
    cases hparts : partsOf l with
    | nil =>
      rw [hparts] at hsegments
      rw [← hsegments] at hfollow; exact hfollow
    | cons part parts =>
      have hpart := hfree part (hparts ▸ mem_cons_self)
      rw [isAbsolutePath_join hpart.2 hpart.1, ← hparts,
        splitSlash_join (by rw [hparts]; simp) fun part hpart => (hfree part hpart).1, hsegments]
      exact hfollow

lemma normalizePath_eq_iff {filePath filePath' : String} :
    normalizePathForMemoryClassification filePath =
        normalizePathForMemoryClassification filePath' ↔
      locationOf filePath = locationOf filePath' := by
  constructor
  · intro h
    rw [← locationOf_normalizePath filePath, h, locationOf_normalizePath]
  · intro h
    rw [normalizePath_eq, normalizePath_eq, h]

/-- Two spellings that lead to one location are classified alike. -/
theorem isMemoryPath_spelling {filePath filePath' : String}
    (h : locationOf filePath = locationOf filePath') :
    isMemoryPath (.str filePath) = isMemoryPath (.str filePath') := by
  have hempty : isMemoryText (normalizePathForMemoryClassification "") = false := by decide +kernel
  have hnormal := normalizePath_eq_iff.mpr h
  have htext : ∀ path : String, isMemoryPath (.str path) =
      isMemoryText (normalizePathForMemoryClassification path) := by
    intro path
    unfold isMemoryPath
    by_cases hpath : path = ""
    · simp [hpath, hempty]
    · simp [hpath]
  rw [htext, htext, hnormal]

/-! ## What the hook blocks -/

/-- A path that leads to a memory location; an empty text is no path. -/
def IsMemoryTarget (host : PathHost) (value : Option Json) : Prop :=
  ∃ path, value = some (.str path) ∧ path ≠ "" ∧
    isMemoryPath (.str (safeResolvePath host path))

def HasSecret (value : Option Json) : Prop :=
  ∃ content, value = some (.str content) ∧ HasSecretText content

def IsWriteCall (event : Json) (params : List (String × Json)) : Prop :=
  ∃ toolName, readBeforeToolCallEvent event = some (toolName, params) ∧
    jsToLowerCase toolName ∈ writeToolNames

def targetParameters : List String := ["file_path", "path"]

def textParameters : List String := ["content", "new_string", "patch"]

def WritesSecret (host : PathHost) (params : List (String × Json)) : Prop :=
  (∃ key ∈ targetParameters, IsMemoryTarget host (params.lookup key)) ∧
    ∃ key ∈ textParameters, HasSecret (params.lookup key)

/-- The value is there and is not `null`. -/
def IsGiven (value : Option Json) : Prop := value ≠ none ∧ value ≠ some .null

/-- A parameter that is given stands before one with a property and does not have it. -/
def Hides (has : Option Json → Prop) (params : List (String × Json)) (keys : List String) : Prop :=
  ∃ before key after, keys = before ++ key :: after ∧
    (∀ earlier ∈ before, ¬ IsGiven (params.lookup earlier)) ∧ IsGiven (params.lookup key) ∧
    ¬ has (params.lookup key) ∧ ∃ later ∈ after, has (params.lookup later)

section Hook

variable {host : PathHost} {event : Json} {params : List (String × Json)}

lemma coalesce_given {a b : Option Json} (h : IsGiven a) : coalesce a b = a := by
  unfold coalesce
  split
  · exact absurd rfl h.1
  · exact absurd rfl h.2
  · rfl

lemma coalesce_not_given {a b : Option Json} (h : ¬ IsGiven a) : coalesce a b = b := by
  unfold coalesce
  split
  · rfl
  · rfl
  · next value hnull => exact absurd ⟨by simp, by simpa using hnull⟩ h

lemma nonempty_of_secret {content : String} (h : HasSecretText content) : content ≠ "" := by
  rintro rfl
  have hnone : (memorySecretPatterns.any fun entry => entry.2.test (units "")) = false := by
    decide +kernel
  obtain ⟨entry, hentry, htest⟩ := h
  exact Bool.eq_false_iff.mp hnone (any_eq_true.mpr ⟨entry, hentry, htest⟩)

lemma readNonEmpty_eq_some {value : Option Json} {s : String} :
    readNonEmpty value = some s ↔ value = some (.str s) ∧ s ≠ "" := by
  unfold readNonEmpty
  rw [Option.filter_eq_some_iff, decide_eq_true_eq]
  refine and_congr_left fun _ => ?_
  cases value with
  | none => simp [readString]
  | some value => cases value <;> simp [readString]

lemma beforeToolCall_isSome_iff : (beforeToolCall host event).isSome ↔
    ∃ params, IsWriteCall event params ∧
      IsMemoryTarget host (coalesce (params.lookup "file_path") (params.lookup "path")) ∧
      HasSecret (coalesce (params.lookup "content")
        (coalesce (params.lookup "new_string") (params.lookup "patch"))) := by
  unfold beforeToolCall
  constructor
  · intro h
    obtain ⟨result, h⟩ := Option.isSome_iff_exists.mp h
    obtain ⟨⟨toolName, params⟩, hevent, h⟩ := Option.bind_eq_some_iff.mp h
    obtain ⟨_, htool, h⟩ := Option.bind_eq_some_iff.mp h
    obtain ⟨rawPath, hpath, h⟩ := Option.bind_eq_some_iff.mp h
    obtain ⟨_, hmemory, h⟩ := Option.bind_eq_some_iff.mp h
    obtain ⟨content, hcontent, h⟩ := Option.bind_eq_some_iff.mp h
    obtain ⟨_, hfound, h⟩ := Option.bind_eq_some_iff.mp h
    rw [Option.guard_eq_some'] at htool hmemory hfound
    obtain ⟨hpath, hne⟩ := readNonEmpty_eq_some.mp hpath
    refine ⟨params, ⟨toolName, hevent, htool⟩, ⟨rawPath, hpath, hne, hmemory⟩, content,
      (readNonEmpty_eq_some.mp hcontent).1, (scanForSecrets_iff content).mp hfound⟩
  · rintro ⟨params, ⟨toolName, hevent, htool⟩, ⟨rawPath, hpath, hne, hmemory⟩, content,
      hcontent, hsecret⟩
    have hread := readNonEmpty_eq_some.mpr ⟨hpath, hne⟩
    have htext := readNonEmpty_eq_some.mpr ⟨hcontent, nonempty_of_secret hsecret⟩
    rw [hevent]
    simp [htool, hread, hmemory, htext, (scanForSecrets_iff content).mpr hsecret, guard]

section Hides

variable {has : Option Json → Prop} {key : String} {keys : List String}

lemma not_hides_singleton : ¬ Hides has params [key] := by
  rintro ⟨before, key', after, hkeys, -, -, -, later, hlater, -⟩
  have hlength : 1 = before.length + (after.length + 1) := by
    simpa using congrArg List.length hkeys
  have hafter := length_pos_of_mem hlater; omega

lemma hides_cons_of_given (h : IsGiven (params.lookup key)) :
    Hides has params (key :: keys) ↔
      ¬ has (params.lookup key) ∧ ∃ later ∈ keys, has (params.lookup later) := by
  constructor
  · rintro ⟨before, key', after, hkeys, hbefore, -, hlacks, hlater⟩
    cases before with
    | nil => obtain ⟨rfl, rfl⟩ := cons.inj hkeys; exact ⟨hlacks, hlater⟩
    | cons first before =>
      obtain rfl := (cons.inj hkeys).1
      exact absurd h (hbefore key mem_cons_self)
  · rintro ⟨hlacks, hlater⟩; exact ⟨[], key, keys, rfl, by simp, h, hlacks, hlater⟩

lemma hides_cons_of_not_given (h : ¬ IsGiven (params.lookup key)) :
    Hides has params (key :: keys) ↔ Hides has params keys := by
  constructor
  · rintro ⟨before, key', after, hkeys, hbefore, hgiven, hlacks, hlater⟩
    cases before with
    | nil => obtain rfl := (cons.inj hkeys).1; exact absurd hgiven h
    | cons first before =>
      refine ⟨before, key', after, (cons.inj hkeys).2, fun earlier hearlier => ?_, hgiven,
        hlacks, hlater⟩
      exact hbefore earlier (mem_cons_of_mem _ hearlier)
  · rintro ⟨before, key', after, rfl, hbefore, hgiven, hlacks, hlater⟩
    refine ⟨key :: before, key', after, rfl, fun earlier hearlier => ?_, hgiven, hlacks, hlater⟩
    rcases mem_cons.mp hearlier with rfl | hearlier
    · exact h
    · exact hbefore earlier hearlier

lemma has_coalesce_iff (hgiven : ∀ value, has value → IsGiven value) {rest : Option Json}
    (hrest : has rest ↔ (∃ later ∈ keys, has (params.lookup later)) ∧ ¬ Hides has params keys) :
    has (coalesce (params.lookup key) rest) ↔
      (∃ later ∈ key :: keys, has (params.lookup later)) ∧ ¬ Hides has params (key :: keys) := by
  rw [exists_mem_cons_iff]
  by_cases h : IsGiven (params.lookup key)
  · rw [coalesce_given h, hides_cons_of_given h]
    constructor
    · intro hhas; exact ⟨.inl hhas, fun hhidden => hhidden.1 hhas⟩
    rintro ⟨hfirst | hlater, hseen⟩
    · exact hfirst
    · by_contra hlacks; exact hseen ⟨hlacks, hlater⟩
  · rw [coalesce_not_given h, hides_cons_of_not_given h, hrest]
    have hlacks : ¬ has (params.lookup key) := fun hhas => h (hgiven _ hhas)
    rw [or_iff_right hlacks]

lemma has_last_iff : has (params.lookup key) ↔
    (∃ later ∈ [key], has (params.lookup later)) ∧ ¬ Hides has params [key] := by
  constructor
  · intro hhas; exact ⟨⟨key, mem_singleton_self key, hhas⟩, not_hides_singleton⟩
  · rintro ⟨⟨later, hlater, hhas⟩, -⟩; rwa [mem_singleton.mp hlater] at hhas

end Hides

lemma IsMemoryTarget.given {value : Option Json} (h : IsMemoryTarget host value) :
    IsGiven value := by
  obtain ⟨path, rfl, -⟩ := h; exact ⟨by simp, by simp⟩

lemma HasSecret.given {value : Option Json} (h : HasSecret value) : IsGiven value := by
  obtain ⟨content, rfl, -⟩ := h; exact ⟨by simp, by simp⟩

end Hook

/-- An earlier parameter of a call that would write a secret hides the path or the text. -/
def HidesSecret (host : PathHost) (event : Json) : Prop :=
  ∃ params, IsWriteCall event params ∧ WritesSecret host params ∧
    (Hides (IsMemoryTarget host) params targetParameters ∨ Hides HasSecret params textParameters)

/-- Calls that would write a secret to a memory location are blocked, and spellings of one
path are classified alike; the first unless an earlier parameter hides the path or the text. -/
theorem beforeToolCall_blocks_iff (host : PathHost) (event : Json) :
    ((∀ params, IsWriteCall event params → WritesSecret host params →
        (beforeToolCall host event).isSome) ∧
      ∀ filePath filePath', locationOf filePath = locationOf filePath' →
        isMemoryPath (.str filePath) = isMemoryPath (.str filePath')) ↔
      ¬ HidesSecret host event := by
  have htarget : ∀ params : List (String × Json),
      IsMemoryTarget host (coalesce (params.lookup "file_path") (params.lookup "path")) ↔
        (∃ key ∈ targetParameters, IsMemoryTarget host (params.lookup key)) ∧
          ¬ Hides (IsMemoryTarget host) params targetParameters :=
    fun params => has_coalesce_iff (fun _ => IsMemoryTarget.given) has_last_iff
  have htext : ∀ params : List (String × Json),
      HasSecret (coalesce (params.lookup "content")
          (coalesce (params.lookup "new_string") (params.lookup "patch"))) ↔
        (∃ key ∈ textParameters, HasSecret (params.lookup key)) ∧
          ¬ Hides HasSecret params textParameters :=
    fun params => has_coalesce_iff (fun _ => HasSecret.given)
      (has_coalesce_iff (fun _ => HasSecret.given) has_last_iff)
  rw [beforeToolCall_isSome_iff]
  constructor
  · rintro ⟨hblocks, -⟩ ⟨params, hcall, hwrites, hhidden⟩
    obtain ⟨params', hcall', hpath, hcontent⟩ := hblocks params hcall hwrites
    obtain rfl : params = params' := by
      obtain ⟨toolName, hevent, -⟩ := hcall
      obtain ⟨toolName', hevent', -⟩ := hcall'
      rw [hevent] at hevent'; exact (Prod.mk.inj (Option.some.inj hevent')).2
    rcases hhidden with hhidden | hhidden
    · exact ((htarget params).mp hpath).2 hhidden
    · exact ((htext params).mp hcontent).2 hhidden
  · intro hseen
    refine ⟨fun params hcall hwrites => ⟨params, hcall, ?_, ?_⟩,
      fun filePath filePath' h => isMemoryPath_spelling h⟩
    · refine (htarget params).mpr ⟨hwrites.1, fun hhidden => ?_⟩
      exact hseen ⟨params, hcall, hwrites, .inl hhidden⟩
    · refine (htext params).mpr ⟨hwrites.2, fun hhidden => ?_⟩
      exact hseen ⟨params, hcall, hwrites, .inr hhidden⟩

/-- An `edit` call with an empty `content` and a token in `new_string`. -/
def hiddenEdit : Json := .obj [("toolName", .str "edit"), ("params", .obj
  [("file_path", .str "/sandbox/.openclaw/memory/notes.md"), ("content", .str ""),
    ("new_string", .str "hf_aaaaaaaaaaaaaaaaaaaa")])]

/-- A `write` call whose `file_path` is in no memory, while its `path` is. -/
def hiddenWrite : Json := .obj [("toolName", .str "write"), ("params", .obj
  [("file_path", .str "README.md"), ("path", .str "/sandbox/.openclaw/memory/notes.md"),
    ("content", .str "hf_aaaaaaaaaaaaaaaaaaaa")])]

/-- Both would write the token to a memory location, and neither is blocked. -/
theorem beforeToolCall_hidden :
    ((∃ params, IsWriteCall hiddenEdit params ∧ WritesSecret {} params) ∧
      beforeToolCall {} hiddenEdit = none) ∧
    ((∃ params, IsWriteCall hiddenWrite params ∧ WritesSecret {} params) ∧
      beforeToolCall {} hiddenWrite = none) := by
  have hsecret : HasSecret (some (.str "hf_aaaaaaaaaaaaaaaaaaaa")) :=
    ⟨_, rfl, _, mem_of_getLast? rfl, by decide +kernel⟩
  have hmemory : IsMemoryTarget {} (some (.str "/sandbox/.openclaw/memory/notes.md")) :=
    ⟨_, rfl, by decide, by decide +kernel⟩
  constructor
  · refine ⟨⟨_, ⟨"edit", rfl, by decide⟩, ⟨"file_path", by decide, hmemory⟩,
      "new_string", by decide, hsecret⟩, ?_⟩
    have hblocked : (beforeToolCall {} hiddenEdit).isSome = false := by decide +kernel
    exact Option.not_isSome_iff_eq_none.mp (Bool.eq_false_iff.mp hblocked)
  · refine ⟨⟨_, ⟨"write", rfl, by decide⟩, ⟨"path", by decide, hmemory⟩,
      "content", by decide, hsecret⟩, ?_⟩
    have hblocked : (beforeToolCall {} hiddenWrite).isSome = false := by decide +kernel
    exact Option.not_isSome_iff_eq_none.mp (Bool.eq_false_iff.mp hblocked)

end NemoClaw.Security
