import NemoClaw.Js.Text
import NemoClaw.Lib.Pattern

/- The patterns that secrets are recognised by.

Correspondence (security/secret-patterns.ts ↔ Lean): the lists keep the source's names
and the order of their patterns. A pattern is read on UTF-16 code units, as one without
the `u` flag is, and each pattern is written with its source in front of it. `test` asks
only whether there is a match, so a repetition may be greedy or lazy.
-/
namespace NemoClaw.Security

open Js Pattern

/-- The UTF-16 code units of a character. -/
def unitsOfChar (c : Char) : List ℕ :=
  if c.toNat < 0x10000 then [c.toNat]
  else [0xD800 + (c.toNat - 0x10000) / 0x400, 0xDC00 + (c.toNat - 0x10000) % 0x400]

def units (s : String) : List ℕ := s.toList.flatMap unitsOfChar

def isDigitUnit (u : ℕ) : Bool := 48 ≤ u && u ≤ 57

def isUpperUnit (u : ℕ) : Bool := 65 ≤ u && u ≤ 90

def isLowerUnit (u : ℕ) : Bool := 97 ≤ u && u ≤ 122

/-- `[A-Za-z0-9]`. -/
def isAlnumUnit (u : ℕ) : Bool := isDigitUnit u || isUpperUnit u || isLowerUnit u

/-- `\w`. -/
def isWordUnit (u : ℕ) : Bool := isAlnumUnit u || u = 95

/-- `\s`: there is no white space above the first plane. -/
def isSpaceUnit (u : ℕ) : Bool := u < 0xD800 && isJsSpace (Char.ofNat u)

/-- A class and the characters of a text. -/
def orIn (p : ℕ → Bool) (extra : String) (u : ℕ) : Bool := p u || u ∈ units extra

def otherCase (u : ℕ) : ℕ := if isUpperUnit u then u + 32 else if isLowerUnit u then u - 32 else u

abbrev UnitPattern := Pattern ℕ

def text (s : String) : UnitPattern := exactly (units s)

/-- A text in any case: what `i` makes of it. -/
def textI (s : String) : UnitPattern :=
  all ((units s).map fun u => letter fun v => v = u || v = otherCase u)

def oneOf (texts : List String) : UnitPattern := any (texts.map text)

def oneOfI (texts : List String) : UnitPattern := any (texts.map textI)

/-- `[...]{least,}`. -/
def atLeast (least : ℕ) (p : ℕ → Bool) : UnitPattern := repeated (letter p) least none

/-- `[...]{least,most}`. -/
def between (least most : ℕ) (p : ℕ → Bool) : UnitPattern := repeated (letter p) least (some most)

/-- `[...]{n}`. -/
def exact (n : ℕ) (p : ℕ → Bool) : UnitPattern := between n n p

/-- `\b`. -/
def wordBoundary : UnitPattern := boundary isWordUnit

/-- `[A-Za-z0-9_-]`. -/
def isKeyUnit : ℕ → Bool := orIn isAlnumUnit "_-"

/-- `[A-Za-z0-9_]`. -/
def isNameUnit : ℕ → Bool := orIn isAlnumUnit "_"

/-- `prefix[...]{least,}`. -/
def token (start : String) (least : ℕ) (p : ℕ → Bool) : UnitPattern :=
  seq (text start) (atLeast least p)

def tokenPrefixPatterns : List UnitPattern :=
  [ token "nvapi-" 10 isKeyUnit,
    token "nvcf-" 10 isKeyUnit,
    token "ghp_" 10 isKeyUnit,
    token "github_pat_" 30 isNameUnit,
    token "sk-proj-" 10 isKeyUnit,
    token "sk-ant-" 10 isKeyUnit,
    token "sk-" 20 isKeyUnit,
    -- /(?:xox[bpas]|xapp)-[A-Za-z0-9-]{10,}/
    all [oneOf ["xoxb", "xoxp", "xoxa", "xoxs", "xapp"], text "-",
      atLeast 10 (orIn isAlnumUnit "-")],
    -- /A(?:K|S)IA[A-Z0-9]{16}/
    seq (oneOf ["AKIA", "ASIA"]) (exact 16 fun u => isUpperUnit u || isDigitUnit u),
    token "hf_" 10 isAlnumUnit,
    token "glpat-" 10 isKeyUnit,
    token "gsk_" 10 isAlnumUnit,
    token "pypi-" 10 isKeyUnit,
    -- /\bbot\d{8,10}:[A-Za-z0-9_-]{35}\b/
    all [wordBoundary, text "bot", between 8 10 isDigitUnit, text ":", exact 35 isKeyUnit,
      wordBoundary],
    -- /\b\d{8,10}:[A-Za-z0-9_-]{35}\b/
    all [wordBoundary, between 8 10 isDigitUnit, text ":", exact 35 isKeyUnit, wordBoundary],
    -- /\b[A-Za-z0-9]{24}\.[A-Za-z0-9_-]{6}\.[A-Za-z0-9_-]{27,}\b/
    all [wordBoundary, exact 24 isAlnumUnit, text ".", exact 6 isKeyUnit, text ".",
      atLeast 27 isKeyUnit, wordBoundary],
    token "tvly-" 10 isKeyUnit,
    -- /lsv2_(?:pt|sk)_[A-Za-z0-9]{10,}(?:_[A-Za-z0-9]+)*/
    all [oneOf ["lsv2_pt_", "lsv2_sk_"], atLeast 10 isAlnumUnit,
      repeated (seq (text "_") (atLeast 1 isAlnumUnit)) 0 none] ]

def structuredTokenPatterns : List UnitPattern :=
  [ -- /\beyJ[A-Za-z0-9_-]{5,}\.[A-Za-z0-9_-]{2,}\.[A-Za-z0-9_-]{10,}\b/
    all [wordBoundary, text "eyJ", atLeast 5 isKeyUnit, text ".", atLeast 2 isKeyUnit, text ".",
      atLeast 10 isKeyUnit, wordBoundary] ]

/-- `(?:[A-Z0-9]+ )?PRIVATE KEY-----`. -/
def privateKeyLabel : UnitPattern :=
  seq (optional (seq (atLeast 1 fun u => isUpperUnit u || isDigitUnit u) (text " ")))
    (text "PRIVATE KEY-----")

def secretBlockPatterns : List UnitPattern :=
  [ all [text "-----BEGIN ", privateKeyLabel, atLeast 0 fun _ => true, text "-----END ",
      privateKeyLabel] ]

/-- `(?:^|[^A-Za-z0-9])`. -/
def nameStart : UnitPattern := alt start (letter fun u => !isAlnumUnit u)

/-- `["']?`. -/
def quoteMark : UnitPattern := optional (letter (· ∈ units "\"'"))

/-- `["']?(?:[ \t]{0,32}[=:][ \t]{0,32}|[ \t]{1,32})["']?`. -/
def assignment : UnitPattern :=
  all [quoteMark,
    alt (all [between 0 32 (· ∈ units " \t"), letter (· ∈ units "=:"),
        between 0 32 (· ∈ units " \t")])
      (between 1 32 (· ∈ units " \t")),
    quoteMark]

/-- A value of ten units or more after a name and an assignment. -/
def assigned (name : UnitPattern) : UnitPattern :=
  seq (behind (all [nameStart, name, assignment]))
    (atLeast 10 fun u => !(isSpaceUnit u || u ∈ units "'\""))

def contextPatterns : List UnitPattern :=
  [ -- /(?<=Bearer\s+)[A-Za-z0-9_.+/=-]{10,}/i
    seq (behind (seq (textI "Bearer") (atLeast 1 isSpaceUnit)))
      (atLeast 10 (orIn isAlnumUnit "_.+/=-")),
    -- [A-Za-z0-9]{1,128}_(?:KEY|...)|(?:X[-_])?API[-_]KEY|TOKEN|..., in any case
    assigned (any [
      all [between 1 128 isAlnumUnit, textI "_",
        oneOfI ["KEY", "TOKEN", "SECRET", "CREDENTIAL", "PASSWORD", "PASSWD", "PASS"]],
      all [optional (seq (textI "X") (letter (· ∈ units "-_"))), textI "API",
        letter (· ∈ units "-_"), textI "KEY"],
      oneOfI ["TOKEN", "SECRET", "CREDENTIAL", "PASSWORD", "PASSWD", "PASS"]]),
    -- [A-Za-z0-9]{1,128}(?:Token|...)|[A-Za-z0-9]{0,128}(?:[Aa]ccess|...)Key|...
    assigned (any [
      seq (between 1 128 isAlnumUnit) (oneOf ["Token", "Secret", "Credential"]),
      all [between 0 128 isAlnumUnit,
        any [oneOf ["Access", "access", "Refresh", "refresh", "Client", "client", "Bearer",
            "bearer", "Auth", "auth"],
          textI "api",
          oneOf ["Private", "private", "Signing", "signing", "Session", "session", "Bot", "bot",
            "App", "app", "Resolved", "resolved"]],
        text "Key"],
      seq (between 1 128 isAlnumUnit) (oneOf ["Password", "Passwd", "Pass"])]),
    assigned (text "KEY") ]

def secretPatterns : List UnitPattern :=
  tokenPrefixPatterns ++ structuredTokenPatterns ++ secretBlockPatterns ++ contextPatterns

/-- `replace(/([A-Z]+)([A-Z][a-z])/g, "$1_$2")`: a run of capitals is cut before the last
one where a small letter follows. -/
def cutCapitals : List ℕ → List ℕ
  | x :: y :: z :: rest =>
    if isUpperUnit x && isUpperUnit y && isLowerUnit z then x :: 95 :: cutCapitals (y :: z :: rest)
    else x :: cutCapitals (y :: z :: rest)
  | rest => rest

/-- `replace(/([a-z0-9])([A-Z])/g, "$1_$2")`. -/
def cutWords : List ℕ → List ℕ
  | x :: y :: rest =>
    if (isLowerUnit x || isDigitUnit x) && isUpperUnit y then x :: 95 :: cutWords (y :: rest)
    else x :: cutWords (y :: rest)
  | rest => rest

/-- `replace(/[^A-Za-z0-9]+/g, "_")`, where `inRun` says that the last unit was replaced. -/
def joinSegments (inRun : Bool) : List ℕ → List ℕ
  | [] => []
  | x :: rest =>
    if isAlnumUnit x then x :: joinSegments false rest
    else if inRun then joinSegments true rest
    else 95 :: joinSegments true rest

/-- `replace(/^_+|_+$/g, "")`. -/
def trimUnderscores (xs : List ℕ) : List ℕ :=
  ((xs.dropWhile (· = 95)).reverse.dropWhile (· = 95)).reverse

def hasPassCredentialSegment (key : String) : Bool :=
  let normalized := (trimUnderscores (joinSegments false (cutWords (cutCapitals (units key))))).map
    fun u => if isUpperUnit u then u + 32 else u
  normalized = units "pass" || normalized = units "passwd" ||
    (units "_pass").isSuffixOf normalized || (units "_passwd").isSuffixOf normalized

end NemoClaw.Security
