import NemoClaw.Security.SecretPatterns
import NemoClaw.Js.Json

/- The redaction of the texts that a session keeps.

Every pattern is replaced wherever it matches, one pattern after the other: assignments to
the known credential variables, bearer values, key blocks, values after a credential's name,
and tokens that are recognised by themselves. The patterns are not applied again to what
the later ones leave.

Correspondence (security/redact.ts ↔ Lean): definitions keep the source's names. A
repetition is greedy, so that the longest match from a place is the one replaced, but for
the text of a key block, which is lazy. Half of a pair of surrogates that the cut leaves is
written as U+FFFD.
-/
namespace NemoClaw.Security

open Js Pattern

def matchEnd (greedy : Bool) (r : UnitPattern) (c : Cursor ℕ) : Option (Cursor ℕ) :=
  (r.ends c).foldl (fun best e =>
    match best with
    | none => some e
    | some b =>
      if (if greedy then e.after.length < b.after.length else b.after.length < e.after.length)
      then some e else some b) none

/-- The matches at the cursor and after it are replaced; there are at most so many letters left. -/
def replaceFrom (greedy : Bool) (r : UnitPattern) (replacement : List ℕ → List ℕ) :
    ℕ → Cursor ℕ → List ℕ
  | 0, c => c.after
  | n + 1, c =>
    match c.after, matchEnd greedy r c with
    | [], _ => []
    | x :: rest, none => x :: replaceFrom greedy r replacement n ⟨x :: c.before, rest⟩
    | matched, some e =>
      replacement (matched.take (matched.length - e.after.length)) ++
        replaceFrom greedy r replacement n e

/-- `text.replace(pattern, replacement)` with the `g` flag. -/
def replaceAll (greedy : Bool) (r : UnitPattern) (replacement : List ℕ → List ℕ)
    (text : List ℕ) : List ℕ :=
  replaceFrom greedy r replacement text.length ⟨[], text⟩

/-- The providers' keys and, from the channel manifests, those of the channels. -/
def sensitiveEnvAssignmentKeys : List String :=
  ["NVIDIA_INFERENCE_API_KEY", "NVIDIA_API_KEY", "NEMOCLAW_PROVIDER_KEY", "NOUS_API_KEY",
    "OPENAI_API_KEY", "OPENROUTER_API_KEY", "ANTHROPIC_API_KEY", "GEMINI_API_KEY",
    "COMPATIBLE_API_KEY", "COMPATIBLE_ANTHROPIC_API_KEY", "BRAVE_API_KEY", "TAVILY_API_KEY",
    "TELEGRAM_BOT_TOKEN", "DISCORD_BOT_TOKEN", "WECHAT_BOT_TOKEN", "SLACK_BOT_TOKEN",
    "SLACK_APP_TOKEN", "MSTEAMS_APP_PASSWORD"]

/-- `\S`. -/
def isNonSpaceUnit (u : ℕ) : Bool := !isSpaceUnit u

/-- `/(KEYS)=\S+/i`. -/
def sensitiveEnvAssignmentPattern : UnitPattern :=
  all [oneOfI sensitiveEnvAssignmentKeys, text "=", atLeast 1 isNonSpaceUnit]

/-- `/Bearer\s+\S+/i`. -/
def bearerPattern : UnitPattern :=
  all [textI "Bearer", atLeast 1 isSpaceUnit, atLeast 1 isNonSpaceUnit]

def redacted : List ℕ := units "<REDACTED>"

/-- The units of a text after every replacement. -/
def redactUnits (value : List ℕ) : List ℕ :=
  let result := replaceAll true sensitiveEnvAssignmentPattern
    (fun found => found.takeWhile (· ≠ 61) ++ units "=" ++ redacted) value
  let result := replaceAll true bearerPattern (fun _ => units "Bearer " ++ redacted) result
  let result := secretBlockPatterns.foldl
    (fun result r => replaceAll false r (fun _ => redacted) result) result
  (contextPatterns ++ tokenPrefixPatterns ++ structuredTokenPatterns).foldl
    (fun result r => replaceAll true r (fun _ => redacted) result) result

section Absent
variable {greedy : Bool} {r : UnitPattern} {replacement : List ℕ → List ℕ} {value : List ℕ}

lemma replaceFrom_of_ends (n : ℕ) {before after : List ℕ}
    (h : ∀ c ∈ Cursor.forward before after, r.ends c = []) :
    replaceFrom greedy r replacement n ⟨before, after⟩ = after := by
  induction n generalizing before after with
  | zero => rfl
  | succ n ih =>
    cases after with
    | nil => rfl
    | cons x rest =>
      have hnone : matchEnd greedy r ⟨before, x :: rest⟩ = none := by
        rw [matchEnd, h _ List.mem_cons_self]; rfl
      rw [replaceFrom]
      simp only [hnone]
      rw [ih fun c hc => h c (List.mem_cons_of_mem _ hc)]

lemma replaceAll_of_absent (h : r.absent value) : replaceAll greedy r replacement value = value :=
  replaceFrom_of_ends _ (ends_of_absent h)

lemma foldl_of_absent {rs : List UnitPattern} (h : rs.all (absent · value)) :
    rs.foldl (fun result r => replaceAll greedy r replacement result) value = value := by
  induction rs with
  | nil => rfl
  | cons r rs ih =>
    obtain ⟨hr, hrs⟩ := Bool.and_eq_true_iff.mp h
    rw [List.foldl_cons, replaceAll_of_absent hr]; exact ih hrs

lemma redactUnits_of_absent
    (h : (sensitiveEnvAssignmentPattern :: bearerPattern :: secretBlockPatterns).all (absent · value)) :
    redactUnits value = (contextPatterns ++ tokenPrefixPatterns ++ structuredTokenPatterns).foldl
      (fun result r => replaceAll true r (fun _ => redacted) result) value := by
  obtain ⟨henv, h⟩ := Bool.and_eq_true_iff.mp h
  obtain ⟨hbearer, hblocks⟩ := Bool.and_eq_true_iff.mp h
  unfold redactUnits
  simp only [replaceAll_of_absent henv, replaceAll_of_absent hbearer, foldl_of_absent hblocks]

end Absent

def ofUnits : List ℕ → List Char
  | high :: low :: rest =>
    if 0xD800 ≤ high ∧ high < 0xDC00 ∧ 0xDC00 ≤ low ∧ low < 0xE000 then
      Char.ofNat (0x10000 + (high - 0xD800) * 0x400 + (low - 0xDC00)) :: ofUnits rest
    else (if 0xD800 ≤ high ∧ high < 0xE000 then '\uFFFD' else Char.ofNat high) ::
      ofUnits (low :: rest)
  | [u] => [if 0xD800 ≤ u ∧ u < 0xE000 then '\uFFFD' else Char.ofNat u]
  | [] => []

def redactSensitiveText (value : Option Json) : Option String :=
  (readString value).map fun s => String.ofList (ofUnits ((redactUnits (units s)).take 240))

end NemoClaw.Security
