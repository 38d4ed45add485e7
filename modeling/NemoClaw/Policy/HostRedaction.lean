import Mathlib.Data.List.TakeWhile
import NemoClaw.Js.Call
import NemoClaw.Lib.AddressText

/- Hosts of policy endpoints, as the agent gets to see them.

A raw endpoint is reduced to a bare host stem, and a stem that is internal, or that
cannot be made out, is counted instead of published.

Correspondence (policy/host-redaction.ts ↔ Lean): definitions keep the source's names.
Texts are lists of characters inside; the lists that go in and out hold strings. A
pattern that is anchored at both ends is a test on the pieces between its separators.
-/
namespace NemoClaw

open Js AddressText List

def internalDnsSuffixes : List String :=
  [".local", ".internal", ".lan", ".home", ".home.arpa", ".corp", ".intra", ".intranet",
    ".localdomain"]

def reservedHosts : List String :=
  ["localhost", "localhost.localdomain", "ip6-localhost", "ip6-loopback", "broadcasthost"]

/-- `\d{1,n}`. -/
def isDigits (n : ℕ) (cs : List Char) : Bool :=
  cs.all isDigit && decide (1 ≤ cs.length) && decide (cs.length ≤ n)

def isIPv4Pattern (host : List Char) : Bool :=
  let octets := host.splitOn '.'
  octets.length == 4 && octets.all (isDigits 3)

def isHostnameChar (c : Char) : Bool := isLower c || isDigit c

def isHostnameLabel (label : List Char) : Bool :=
  decide (label.length ≤ 63) && label.head?.any isHostnameChar &&
    label.getLast?.any isHostnameChar && label.all fun c => isHostnameChar c || c == '-'

/-- `HOSTNAME_PATTERN`. -/
def looksLikeHostname (host : List Char) : Bool := (host.splitOn '.').all isHostnameLabel

/-- `^[a-z][a-z0-9+.-]*:\/\/`, in either case: what is left after it. -/
def stripScheme (value : List Char) : List Char :=
  match value with
  | [] => value
  | c :: rest =>
    let after := rest.dropWhile fun d => d.isAlphanum || d ∈ ['+', '.', '-']
    match after with
    | ':' :: '/' :: '/' :: rest => if c.isAlpha then rest else value
    | _ => value

def stripUrlSyntax (value : List Char) : List Char :=
  let working := stripScheme value
  let working := (working.reverse.takeWhile (· ≠ '@')).reverse
  working.takeWhile fun c => c ∉ ['/', '?', '#']

/-- `value.replace(/\.$/, "")`. -/
def dropFinalDot (value : List Char) : List Char :=
  if value.getLast? = some '.' then value.dropLast else value

def stripBracketsAndPort (value : List Char) : List Char :=
  match value with
  | '[' :: rest => if ']' ∈ rest then rest.takeWhile (· ≠ ']') else value
  | _ =>
    match value.splitOn ':' with
    | [candidate, port] => if isDigits 5 port ∧ candidate ≠ [] then candidate else value
    | _ => value

/-- `^(?:0*:)*ffff:` and a dotted quad, which is what is left; the second pattern of the
source is a case of it. -/
def mappedIPv4 (value : List Char) : Option (List Char) :=
  match (value.splitOn ':').reverse with
  | quad :: marker :: zeros =>
    if isIPv4Pattern quad ∧ marker = ['f', 'f', 'f', 'f'] ∧ zeros.all (·.all (· == '0')) then
      some quad
    else none
  | _ => none

def lowerText (value : List Char) : List Char := value.map lowerChar

def normaliseIPv4MappedIPv6 (value : List Char) : List Char :=
  (mappedIPv4 (lowerText value)).getD value

def canonicaliseHost (value : String) : Option (List Char) :=
  let stripped := stripUrlSyntax (jsTrim value).toList
  if stripped = [] then none
  else
    let lowered := dropFinalDot (lowerText stripped)
    let withoutPort := stripBracketsAndPort lowered
    if withoutPort = [] then none
    else
      let remapped := normaliseIPv4MappedIPv6 withoutPort
      if remapped = [] then none
      else if remapped.any fun c => isJsSpace c || c ∈ ['/', '?', '#', '@', '\\', '!'] then none
      else if isIPv4Pattern remapped then some remapped
      else if ':' ∈ remapped then
        if (remapped.all fun c => isLowerHex c || c == ':' || c == '.') ∧
            ([':', ':'] <:+: remapped ∨ 3 ≤ (remapped.splitOn ':').length) then some remapped
        else none
      else if looksLikeHostname remapped then some remapped
      else none

def isInternalQuad (parsed : List ℕ) : Bool :=
  match parsed with
  | [a, b, c, _] =>
    decide (a = 10) || decide (a = 127) || decide (a = 0) ||
      (decide (a = 169) && decide (b = 254)) ||
      (decide (a = 172) && decide (16 ≤ b) && decide (b ≤ 31)) ||
      (decide (a = 192) && decide (b = 168)) ||
      (decide (a = 100) && decide (64 ≤ b) && decide (b ≤ 127)) ||
      (decide (a = 198) && (decide (b = 18) || decide (b = 19))) ||
      (decide (a = 192) && decide (b = 0) && decide (c = 0)) ||
      decide (224 ≤ a)
  | _ => false

def looksLikeInternalIPv4 (host : List Char) : Bool :=
  let parsed := (host.splitOn '.').map natOfDigits
  isIPv4Pattern host && (parsed.all fun n => decide (n ≤ 255)) && isInternalQuad parsed

def firstHextet (value : List Char) : Option (List Char) :=
  if [':', ':'] <+: value then none
  else
    let head := (value.splitOn ':').headD []
    if (head.all isLowerHex) ∧ 1 ≤ head.length ∧ head.length ≤ 4 then some head else none

def isInternalHead (head : List Char) : Bool :=
  (decide (0xfe80 ≤ natOfHex head) && decide (natOfHex head ≤ 0xfebf)) ||
    ['f', 'c'].isPrefixOf head || ['f', 'd'].isPrefixOf head || ['f', 'f'].isPrefixOf head

def looksLikeInternalIPv6 (host : List Char) : Bool :=
  let normalised := lowerText host
  decide (':' ∈ host) &&
    (decide (normalised = [':', ':']) || decide (normalised = [':', ':', '1']) ||
      (firstHextet normalised).any isInternalHead ||
      ([':', ':'].isPrefixOf normalised && isIPv4Pattern (normalised.drop 2) &&
        looksLikeInternalIPv4 (normalised.drop 2)))

def isInternalHost (host : List Char) : Bool :=
  host ≠ [] &&
    (decide (host ∈ reservedHosts.map String.toList) || looksLikeInternalIPv4 host ||
      looksLikeInternalIPv6 host ||
      (internalDnsSuffixes.any fun suffix =>
        decide (host = suffix.toList.drop 1) || suffix.toList.isSuffixOf host) ||
      (!looksLikeHostname host && !decide (':' ∈ host)))

structure HostStemsResult where
  published : List String
  redactedCount : ℕ

/-- The stem that an endpoint is published under, if it is. -/
def publicStem (raw : String) : Option String :=
  ((canonicaliseHost raw).filter fun canonical => !isInternalHost canonical).map String.ofList

def hostStemsFromEndpoints (rawHosts : List String) : HostStemsResult :=
  { published := (uniq (rawHosts.filterMap publicStem)).insertionSort (· ≤ ·)
    redactedCount := (rawHosts.filter fun raw => publicStem raw = none).length }

/-- Characters that the URL and port syntax leaves alone. -/
def isPlainChar (c : Char) : Bool := isHex c || c ∈ [':', '.', '[', ']']

lemma isPlainChar_cases {c : Char} (h : isPlainChar c) :
    isHex c ∨ c = ':' ∨ c = '.' ∨ c = '[' ∨ c = ']' := by
  simpa [isPlainChar] using h

/-- A fact about plain characters is checked one by one. -/
lemma forall_isPlainChar {p : Char → Prop}
    (h : ∀ n < 128, isPlainChar (Char.ofNat n) → p (Char.ofNat n)) {c : Char}
    (hc : isPlainChar c) : p c := by
  have hlt : c.toNat < 128 := by
    rcases isPlainChar_cases hc with hhex | rfl | rfl | rfl | rfl
    · exact toNat_lt_of_isHex hhex
    all_goals decide
  have hnat := h c.toNat hlt
  rw [Char.ofNat_toNat] at hnat; exact hnat hc

lemma isPlainChar_facts {c : Char} (h : isPlainChar c) :
    isJsSpace c = false ∧ c ≠ '/' ∧ c ≠ '?' ∧ c ≠ '#' ∧ c ≠ '@' ∧ c ≠ '\\' ∧ c ≠ '!' := by
  refine forall_isPlainChar (p := fun c => isJsSpace c = false ∧ c ≠ '/' ∧ c ≠ '?' ∧ c ≠ '#' ∧
    c ≠ '@' ∧ c ≠ '\\' ∧ c ≠ '!') ?_ h
  decide

lemma jsTrim_of_plain {cs : List Char} (h : ∀ c ∈ cs, isPlainChar c) :
    (jsTrim (.ofList cs)).toList = cs := by
  have hdrop : ∀ ds : List Char, (∀ c ∈ ds, isPlainChar c) → ds.dropWhile isJsSpace = ds := by
    intro ds hds
    refine dropWhile_eq_self_iff.mpr fun hlen => ?_
    have := (isPlainChar_facts (hds _ (getElem_mem hlen))).1; simp [this]
  unfold jsTrim
  rw [String.toList_ofList, String.toList_ofList, hdrop cs h,
    hdrop cs.reverse fun c hc => h c (mem_reverse.mp hc), reverse_reverse]

lemma stripScheme_of_plain {cs : List Char} (h : ∀ c ∈ cs, isPlainChar c) :
    stripScheme cs = cs := by
  unfold stripScheme
  cases cs with
  | nil => rfl
  | cons c rest =>
  simp only
  split
  · next tail heq =>
    -- a scheme ends in slashes
    have hslash : '/' ∈ rest :=
      (dropWhile_sublist _).subset (heq ▸ mem_cons_of_mem _ mem_cons_self)
    exact absurd rfl (isPlainChar_facts (h '/' (mem_cons_of_mem _ hslash))).2.1
  · rfl

lemma stripUrlSyntax_of_plain {cs : List Char} (h : ∀ c ∈ cs, isPlainChar c) :
    stripUrlSyntax cs = cs := by
  unfold stripUrlSyntax
  simp only
  rw [stripScheme_of_plain h]
  have hat : cs.reverse.takeWhile (· ≠ '@') = cs.reverse := by
    refine takeWhile_eq_self_iff.mpr fun c hc => ?_
    simpa using (isPlainChar_facts (h c (mem_reverse.mp hc))).2.2.2.2.1
  rw [hat, reverse_reverse]
  refine takeWhile_eq_self_iff.mpr fun c hc => ?_
  obtain ⟨-, hslash, hquery, hhash, -⟩ := isPlainChar_facts (h c hc)
  simp [hslash, hquery, hhash]

lemma isIPv4Pattern_chars {host : List Char} (h : isIPv4Pattern host) :
    ∀ c ∈ host, c = '.' ∨ isDigit c := by
  intro c hc
  unfold isIPv4Pattern at h
  simp only [Bool.and_eq_true, all_eq_true] at h
  have hjoin : ['.'].intercalate (host.splitOn '.') = host := intercalate_splitOn '.'
  rw [← hjoin] at hc
  rcases mem_intercalate hc with hdot | ⟨part, hpart, hcpart⟩
  · exact .inl hdot
  have hdigits := h.2 part hpart
  unfold isDigits at hdigits
  simp only [Bool.and_eq_true, all_eq_true] at hdigits
  exact .inr (hdigits.1.1 c hcpart)

lemma not_isIPv4Pattern_of_colon {host : List Char} (h : ':' ∈ host) :
    isIPv4Pattern host = false := by
  by_contra hpattern
  rcases isIPv4Pattern_chars (by simpa using hpattern) ':' h with hdot | hdigit
  · revert hdot; decide
  · revert hdigit; decide

lemma isIPv4Pattern_dotted (d : Dotted) : isIPv4Pattern d.text := by
  have hall : ∀ o : Octet, isDigits 3 o.text := by
    intro o
    have hlength := length_pos_iff.mpr o.nonempty
    unfold isDigits
    simp only [Bool.and_eq_true, all_eq_true, decide_eq_true_eq]
    exact ⟨⟨o.digits, hlength⟩, o.short⟩
  unfold isIPv4Pattern
  rw [d.splitOn_text]; simp [Dotted.octets, hall]

lemma not_isIPv4Pattern_of_dotless {host : List Char} (h : '.' ∉ host) :
    isIPv4Pattern host = false := by
  unfold isIPv4Pattern
  simp only
  rw [splitOn_of_notMem h]; rfl

end NemoClaw
