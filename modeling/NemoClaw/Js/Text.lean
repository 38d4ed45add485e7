import Mathlib.Tactic

/- JavaScript string operations and the string formats programs check with
regular expressions.

A string is a Lean `String`; `jsLength` counts UTF-16 code units as
`String.prototype.length` does, `jsTrim` removes the white space and line
terminators of the language specification, `splitComma` and `joinComma` are
`split(",")` and `join(",")`. The formats (lower-case hex digests, UUIDs,
ISO 8601 instants as `toISOString` prints them) are Boolean functions, so
concrete strings can be tested by evaluation.

What is proved: `splitComma` inverts `joinComma` on comma-free parts, and a
joined non-empty list of non-empty parts is a non-empty string.
-/
namespace Js

open List

/-- The number of UTF-16 code units. -/
def jsLength (s : String) : Nat :=
  (s.toList.map fun c => if c.val < 0x10000 then 1 else 2).sum

/-- White space and line terminators, as `trim` removes them. -/
def isJsSpace (c : Char) : Bool :=
  c.val ∈ [0x09, 0x0A, 0x0B, 0x0C, 0x0D, 0x20, 0xA0, 0x1680, 0x2028, 0x2029, 0x202F, 0x205F,
      0x3000, 0xFEFF] ||
    (0x2000 ≤ c.val && c.val ≤ 0x200A)

def jsTrim (s : String) : String :=
  .ofList ((s.toList.dropWhile isJsSpace).reverse.dropWhile isJsSpace).reverse

/-- `toLowerCase`, exact on every comparison of its result with an ASCII string:
the letters A to Z and the Kelvin sign are all that lower to ASCII letters. -/
def jsToLowerCase (s : String) : String :=
  .ofList (s.toList.map fun c => if c.val = 0x212A then 'k' else c.toLower)

/-- `s.trim() === s`. -/
def isTrimmed (s : String) : Bool := jsTrim s == s

/-! ## Comma-separated lists -/

/-- `parts.join(",")`. -/
def joinComma (parts : List String) : String := ",".intercalate parts

/-- `s.split(",")`. -/
def splitComma (s : String) : List String := (s.toList.splitOn ',').map String.ofList

/-- No comma occurs in `s`. -/
def CommaFree (s : String) : Prop := ',' ∉ s.toList

instance (s : String) : Decidable (CommaFree s) := inferInstanceAs (Decidable (¬ _))

lemma toList_joinComma (parts : List String) :
    (joinComma parts).toList = [','].intercalate (parts.map String.toList) := by
  simp [joinComma, String.toList_intercalate]

lemma splitOn_intercalate (c : Char) {parts : List String} (hne : parts ≠ [])
    (hfree : ∀ p ∈ parts, c ∉ p.toList) :
    (([c].intercalate (parts.map String.toList)).splitOn c).map String.ofList = parts := by
  have hfree' : ∀ l ∈ parts.map String.toList, c ∉ l := by
    intro l hl
    obtain ⟨p, hp, rfl⟩ := mem_map.mp hl; exact hfree p hp
  have hne' : parts.map String.toList ≠ [] := by simpa using hne
  rw [List.splitOn_intercalate c hfree' hne', List.map_map]; simp [Function.comp_def]

lemma splitComma_joinComma {parts : List String} (hne : parts ≠ [])
    (hfree : ∀ p ∈ parts, CommaFree p) : splitComma (joinComma parts) = parts := by
  rw [splitComma, toList_joinComma]; exact splitOn_intercalate ',' hne hfree

lemma joinComma_splitComma (s : String) : joinComma (splitComma s) = s := by
  apply String.toList_inj.mp
  rw [toList_joinComma, splitComma, map_map]
  simp [Function.comp_def, intercalate_splitOn]

lemma joinComma_ne_empty {parts : List String} (hne : parts ≠ [])
    (hparts : ∀ p ∈ parts, p ≠ "") : joinComma parts ≠ "" := by
  match parts, hne with
  | [p], _ => simpa [joinComma] using hparts p (by simp)
  | p :: q :: rest, _ =>
    intro h
    have h' := congrArg String.toList h
    rw [toList_joinComma] at h'; simp [List.intercalate] at h'

/-- `lines.join("\n")`. -/
def joinLines (lines : List String) : String := "\n".intercalate lines

/-- `s.split("\n")`. -/
def splitLines (s : String) : List String := (s.toList.splitOn '\n').map String.ofList

lemma splitLines_joinLines {lines : List String} (hne : lines ≠ [])
    (hfree : ∀ l ∈ lines, '\n' ∉ l.toList) : splitLines (joinLines lines) = lines := by
  rw [splitLines, joinLines, String.toList_intercalate]
  exact splitOn_intercalate '\n' hne hfree

lemma splitLines_ne_nil (s : String) : splitLines s ≠ [] := by
  simp [splitLines, splitOn_ne_nil]

lemma notMem_of_mem_splitOn (c : Char) {cs l : List Char} (h : l ∈ cs.splitOn c) : c ∉ l := by
  induction cs generalizing l with
  | nil =>
    obtain rfl : l = [] := by simpa using h
    exact not_mem_nil
  | cons d cs ih =>
    rw [splitOn_cons_eq_if_modifyHead] at h
    split at h
    · rcases mem_cons.mp h with rfl | hrest
      · exact not_mem_nil
      · exact ih hrest
    · next hne =>
      obtain ⟨head, tail, hsplit⟩ := exists_cons_of_ne_nil (splitOn_ne_nil c cs)
      rw [hsplit, modifyHead_cons] at h
      rw [hsplit] at ih
      rcases mem_cons.mp h with rfl | hrest
      · have hhead := ih mem_cons_self
        simp only [beq_iff_eq] at hne; simp [hhead, Ne.symm hne]
      · exact ih (mem_cons_of_mem _ hrest)

lemma notMem_of_mem_splitLines {s line : String} (h : line ∈ splitLines s) :
    '\n' ∉ line.toList := by
  obtain ⟨l, hl, rfl⟩ := mem_map.mp h
  rw [String.toList_ofList]; exact notMem_of_mem_splitOn '\n' hl

/-- `Object.keys(o).sort()`: only the resulting set is ever compared, so any
total order on strings will do. -/
def sortedKeys (keys : List String) : List String := keys.insertionSort (· ≤ ·)

def isDigit (c : Char) : Bool := '0' ≤ c && c ≤ '9'

def isLower (c : Char) : Bool := 'a' ≤ c && c ≤ 'z'

def isLowerHex (c : Char) : Bool := isDigit c || ('a' ≤ c && c ≤ 'f')

def isHex (c : Char) : Bool := isLowerHex c || ('A' ≤ c && c ≤ 'F')

/-- `/^[0-9a-f]{n}$/`. -/
def isLowerHexOf (n : Nat) (s : String) : Bool :=
  s.toList.length == n && s.toList.all isLowerHex

/-- `/^[first][rest]{0,most}$/`. -/
def isNameOf (first rest : Char → Bool) (most : ℕ) (s : String) : Bool :=
  match s.toList with
  | [] => false
  | c :: cs => first c && decide (cs.length ≤ most) && cs.all rest

def isAlphanumeric (c : Char) : Bool := isDigit c || isLower c || ('A' ≤ c && c ≤ 'Z')

/-- The bytes are 64 lower-case hex digits. -/
def isSha256Bytes (bytes : List UInt8) : Bool :=
  bytes.length == 64 && bytes.all fun b =>
    (0x30 ≤ b && b ≤ 0x39) || (0x61 ≤ b && b ≤ 0x66)

/-- `/^[a-f0-9]{64}$/`. What it accepts is ASCII, so the bytes of the text decide. -/
def isSha256 (s : String) : Bool := isSha256Bytes s.toByteArray.data.toList

/-- `/^sha256:[a-f0-9]{64}$/`. -/
def isSha256Digest (s : String) : Bool :=
  let bytes := s.toByteArray.data.toList
  bytes.take 7 == "sha256:".toByteArray.data.toList && isSha256Bytes (bytes.drop 7)

/-- The canonical 8-4-4-4-12 form, version 1 to 8, variant 8, 9, a or b, in
either case. -/
def isUuid (s : String) : Bool :=
  match s.toList.splitOn '-' with
  | [a, b, c, d, e] =>
    [a, b, c, d, e].all (fun part => part.all isHex) &&
      [a, b, c, d, e].map List.length == [8, 4, 4, 4, 12] &&
      c.head?.any (fun v => '1' ≤ v && v ≤ '8') &&
      d.head?.any (fun v => v ∈ ['8', '9', 'a', 'b', 'A', 'B'])
  | _ => false

/-! ## Instants

`readCanonicalIsoTimestamp` style checks accept a string exactly when
`new Date(s).toISOString() === s`: the fixed-width form below with an existing
calendar day, or the six-digit signed year outside 0 to 9999. -/

def natOfDigits (cs : List Char) : Nat :=
  cs.foldl (fun n c => 10 * n + (c.toNat - '0'.toNat)) 0

def isLeapYear (y : Int) : Bool := y % 4 == 0 && (y % 100 != 0 || y % 400 == 0)

def daysInMonth (y : Int) (m : Nat) : Nat :=
  if m == 2 then (if isLeapYear y then 29 else 28)
  else if m ∈ [4, 6, 9, 11] then 30 else 31

/-- Whether the day is one a `Date` can represent: `±8.64e15` ms around 1970. -/
def inDateRange (y : Int) (m d : Nat) (midnight : Bool) : Bool :=
  if y == 275760 then m < 9 || (m == 9 && (d < 13 || (d == 13 && midnight)))
  else if y == -271821 then 4 < m || (m == 4 && 20 ≤ d)
  else -271821 < y && y < 275760

/-- `-MM-DDTHH:mm:ss.sssZ` after the year `y`. -/
def isIsoTail (y : Int) : List Char → Bool
  | ['-', m1, m2, '-', d1, d2, 'T', h1, h2, ':', n1, n2, ':', s1, s2, '.', f1, f2, f3, 'Z'] =>
    let m := natOfDigits [m1, m2]
    let d := natOfDigits [d1, d2]
    let midnight := [h1, h2, n1, n2, s1, s2, f1, f2, f3].all (· == '0')
    [m1, m2, d1, d2, h1, h2, n1, n2, s1, s2, f1, f2, f3].all isDigit &&
      1 ≤ m && m ≤ 12 && 1 ≤ d && d ≤ daysInMonth y m &&
      natOfDigits [h1, h2] ≤ 23 && natOfDigits [n1, n2] ≤ 59 && natOfDigits [s1, s2] ≤ 59 &&
      inDateRange y m d midnight
  | _ => false

/-- `new Date(s).toISOString() === s`. -/
def isCanonicalIsoTimestamp (s : String) : Bool :=
  match s.toList with
  | '+' :: rest =>
    let year := rest.take 6
    year.length == 6 && year.all isDigit && 9999 < natOfDigits year &&
      isIsoTail (natOfDigits year) (rest.drop 6)
  | '-' :: rest =>
    let year := rest.take 6
    year.length == 6 && year.all isDigit && 0 < natOfDigits year &&
      isIsoTail (-(natOfDigits year : Int)) (rest.drop 6)
  | cs =>
    let year := cs.take 4
    year.length == 4 && year.all isDigit && isIsoTail (natOfDigits year) (cs.drop 4)

example : isCanonicalIsoTimestamp "2026-02-28T23:59:59.999Z" := by decide
example : isCanonicalIsoTimestamp "2026-02-29T00:00:00.000Z" = false := by decide

/-- An instant as `new Date().toISOString()` produces it. -/
abbrev IsoTimestamp := { s : String // isCanonicalIsoTimestamp s }

/-- The components of a parsed URL that the program reads. -/
structure Url where
  protocol : String
  hostname : String
  port : String
  username : String
  password : String
  pathname : String
  search : String
  hash : String
  origin : String
  deriving DecidableEq

def Url.isHttp (u : Url) : Bool := u.protocol == "http:" || u.protocol == "https:"

/-- The `URL` constructor: a parser (`none` where it throws, as on the empty
string) under which an HTTP URL's origin is itself a URL with the same scheme,
host and port and nothing else. -/
structure UrlApi where
  parse : String → Option Url
  parse_empty : parse "" = none
  parse_origin : ∀ {s : String} {u : Url}, parse s = some u → u.isHttp →
    parse u.origin = some { u with
      username := "", password := "", pathname := "/", search := "", hash := "" }

/-- `path.isAbsolute` on POSIX systems. -/
def isAbsolutePath (p : String) : Bool := p.toList.head? == some '/'

lemma isDigit_of_mem_repr {n : ℕ} {c : Char} (h : c ∈ (Nat.repr n).toList) : c.isDigit := by
  rw [Nat.toList_repr] at h; exact Nat.isDigit_of_mem_toDigits (by decide) (by decide) h

lemma repr_injective {m n : ℕ} (h : Nat.repr m = Nat.repr n) : m = n := by
  have hdigits := congrArg String.toList h
  rw [Nat.toList_repr, Nat.toList_repr] at hdigits
  calc m = Nat.ofDigitChars 10 (Nat.toDigits 10 m) 0 :=
        (Nat.ofDigitChars_toDigits (by decide) (by decide)).symm
    _ = Nat.ofDigitChars 10 (Nat.toDigits 10 n) 0 := by rw [hdigits]
    _ = n := Nat.ofDigitChars_toDigits (by decide) (by decide)

end Js
