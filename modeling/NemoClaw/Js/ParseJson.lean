import NemoClaw.Js.CanonicalText
import NemoClaw.Js.Json
import NemoClaw.Js.Object

/- `JSON.parse`.

Every reader takes a text and gives what it has read with the rest of the text. A number
is a rational and is not rounded. An escape that is half of a surrogate pair stands for no
character; it is read as U+FFFD.

What is proved:
  1. `reads_quote`, `reads_null`, `reads_one` — literals as `JSON.stringify` writes them.
  2. `reads_object` — an object is read back from the texts of its properties.
  3. `parseJson_objectText` — a written object behind which a line ends.
-/
namespace Js

open List

/-! ## Strings -/

def isJsonSpace (c : Char) : Bool := c = ' ' || c = '\t' || c = '\n' || c = '\r'

def skipSpace (cs : List Char) : List Char := cs.dropWhile isJsonSpace

def hexDigit? (c : Char) : Option ℕ :=
  if c.isDigit then some (c.toNat - 48)
  else if 'a' ≤ c && c ≤ 'f' then some (c.toNat - 87)
  else if 'A' ≤ c && c ≤ 'F' then some (c.toNat - 55)
  else none

/-- The code unit of four hexadecimal digits. -/
def hexUnit? (a b c d : Char) : Option ℕ := do
  let a ← hexDigit? a
  let b ← hexDigit? b
  let c ← hexDigit? c
  let d ← hexDigit? d
  some (((a * 16 + b) * 16 + c) * 16 + d)

/-- The character that one or two code units stand for, and whether both were needed. -/
def charOfUnits (unit : ℕ) (next : Option ℕ) : Char × Bool :=
  if 0xD800 ≤ unit ∧ unit < 0xDC00 then
    match next with
    | some low =>
      if 0xDC00 ≤ low ∧ low < 0xE000 then
        (.ofNat (0x10000 + (unit - 0xD800) * 0x400 + (low - 0xDC00)), true)
      else ('\uFFFD', false)
    | none => ('\uFFFD', false)
  else if 0xDC00 ≤ unit ∧ unit < 0xE000 then ('\uFFFD', false)
  else (.ofNat unit, false)

def unitEscape? : List Char → Option ℕ
  | '\\' :: 'u' :: a :: b :: c :: d :: _ => hexUnit? a b c d
  | _ => none

def simpleEscape? (c : Char) : Option Char :=
  if c = '"' ∨ c = '\\' ∨ c = '/' then some c
  else if c = 'b' then some (.ofNat 8)
  else if c = 'f' then some (.ofNat 12)
  else if c = 'n' then some (.ofNat 10)
  else if c = 'r' then some (.ofNat 13)
  else if c = 't' then some (.ofNat 9)
  else none

/-- One character of a string, and how many more it takes of the text than its first. -/
def readChar (c : Char) (rest : List Char) : Option (Char × ℕ) :=
  if c = '\\' then
    match unitEscape? (c :: rest) with
    | some unit =>
      let (char, both) := charOfUnits unit (unitEscape? (rest.drop 5))
      some (char, if both then 11 else 5)
    | none =>
      match rest with
      | e :: _ => (simpleEscape? e).map fun char => (char, 1)
      | [] => none
  else if c.toNat < 32 then none
  else some (c, 0)

/-- The characters of a string up to its closing quotation mark. -/
def readChars : ℕ → List Char → Option (List Char × List Char)
  | 0, _ => none
  | _, [] => none
  | n + 1, c :: rest =>
    if c = '"' then some ([], rest)
    else do
      let (char, taken) ← readChar c rest
      let (chars, rest) ← readChars n (rest.drop taken)
      some (char :: chars, rest)

def digitsValue (digits : List Char) : ℕ := digits.foldl (fun n d => 10 * n + (d.toNat - 48)) 0

/-- The digits at the start of the text; there is one at least. -/
def readDigits (cs : List Char) : Option (List Char × List Char) :=
  let digits := cs.takeWhile Char.isDigit
  if digits = [] then none else some (digits, cs.dropWhile Char.isDigit)

/-- No digit follows a zero in front. -/
def readWhole : List Char → Option (List Char × List Char)
  | '0' :: rest => some (['0'], rest)
  | cs => readDigits cs

def readFraction : List Char → Option (List Char × List Char)
  | '.' :: rest => readDigits rest
  | cs => some ([], cs)

def readExponent : List Char → Option (ℤ × List Char)
  | [] => some (0, [])
  | e :: rest =>
    if e = 'e' ∨ e = 'E' then
      match rest with
      | '-' :: rest => (readDigits rest).map fun (digits, rest) => (-(digitsValue digits : ℤ), rest)
      | '+' :: rest => (readDigits rest).map fun (digits, rest) => ((digitsValue digits : ℤ), rest)
      | rest => (readDigits rest).map fun (digits, rest) => ((digitsValue digits : ℤ), rest)
    else some (0, e :: rest)

def readUnsigned (cs : List Char) : Option (ℚ × List Char) := do
  let (whole, rest) ← readWhole cs
  let (fraction, rest) ← readFraction rest
  let (exponent, rest) ← readExponent rest
  some (digitsValue (whole ++ fraction) * 10 ^ (exponent - fraction.length), rest)

def readNumber : List Char → Option (ℚ × List Char)
  | '-' :: rest => (readUnsigned rest).map fun (q, rest) => (-q, rest)
  | cs => readUnsigned cs

section Items

variable {α : Type}

/-- Items with commas between them, and the sign that closes them. -/
def readItems (close : Char) (item : List Char → Option (α × List Char)) :
    ℕ → List Char → Option (List α × List Char)
  | 0, _ => none
  | n + 1, cs => do
    let (x, rest) ← item cs
    match skipSpace rest with
    | [] => none
    | c :: rest =>
      if c = close then some ([x], rest)
      else if c = ',' then
        (readItems close item n rest).map fun (xs, rest) => (x :: xs, rest)
      else none

def readList (close : Char) (item : List Char → Option (α × List Char)) (cs : List Char) :
    Option (List α × List Char) :=
  match skipSpace cs with
  | [] => none
  | c :: rest => if c = close then some ([], rest) else readItems close item cs.length cs

/-- A name, a colon and what follows. -/
def readMember (value : List Char → Option (α × List Char)) (cs : List Char) :
    Option ((String × α) × List Char) :=
  match skipSpace cs with
  | '"' :: rest => do
    let (key, rest) ← readChars rest.length rest
    match skipSpace rest with
    | ':' :: rest => (value rest).map fun (v, rest) => ((.ofList key, v), rest)
    | _ => none
  | _ => none

end Items

/-- Of two properties with one name the later value counts, at the place of the first. -/
def ofMembers (members : List (String × Json)) : List (String × Json) :=
  members.foldl (fun object kv => setOwn object kv.1 kv.2) []

def readValue : ℕ → List Char → Option (Json × List Char)
  | 0, _ => none
  | depth + 1, cs =>
    match skipSpace cs with
    | '\x7b' :: rest =>
      (readList '\x7d' (readMember (readValue depth)) rest).map fun (members, rest) =>
        (.obj (ofMembers members), rest)
    | '[' :: rest =>
      (readList ']' (readValue depth) rest).map fun (xs, rest) => (.arr xs, rest)
    | '"' :: rest =>
      (readChars rest.length rest).map fun (chars, rest) => (.str (.ofList chars), rest)
    | 't' :: 'r' :: 'u' :: 'e' :: rest => some (.bool true, rest)
    | 'f' :: 'a' :: 'l' :: 's' :: 'e' :: rest => some (.bool false, rest)
    | 'n' :: 'u' :: 'l' :: 'l' :: rest => some (.null, rest)
    | cs => (readNumber cs).map fun (q, rest) => (.num q, rest)

def parseJson (text : String) : Option Json := do
  let (v, rest) ← readValue (text.toList.length + 1) text.toList
  if skipSpace rest = [] then some v else none

lemma readChar_escapeChar (c : Char) : ∃ d ds, escapeChar c = d :: ds ∧ d ≠ '"' ∧
    ∀ rest, readChar d (ds ++ rest) = some (c, ds.length) := by
  obtain ⟨d, ds, hescape, hquote⟩ := escapeChar_head c
  refine ⟨d, ds, hescape, hquote, fun rest => ?_⟩
  unfold escapeChar at hescape
  split at hescape
  · next h =>
    obtain ⟨rfl, rfl⟩ := cons.inj hescape
    subst h; rfl
  · split at hescape
    · next h =>
      obtain ⟨rfl, rfl⟩ := cons.inj hescape
      subst h; rfl
    · next hbackslash =>
      have hchar : c = Char.ofNat c.toNat := (Char.ofNat_toNat c).symm
      by_cases hcontrol : c.toNat < 32
      · -- A control character is one of thirty-two.
        generalize c.toNat = n at hchar hcontrol hescape
        subst hchar
        interval_cases n <;> obtain ⟨rfl, rfl⟩ := cons.inj hescape <;> rfl
      · rw [if_neg (by omega), if_neg (by omega), if_neg (by omega), if_neg (by omega),
          if_neg (by omega), if_neg hcontrol] at hescape
        obtain ⟨rfl, rfl⟩ := cons.inj hescape
        unfold readChar
        rw [if_neg hbackslash, if_neg hcontrol]; rfl

lemma readChars_escaped {chars : List Char} (rest : List Char) {n : ℕ} (h : chars.length < n) :
    readChars n (chars.flatMap escapeChar ++ '"' :: rest) = some (chars, rest) := by
  induction chars generalizing n with
  | nil =>
    obtain ⟨n, rfl⟩ := Nat.exists_eq_succ_of_ne_zero (Nat.ne_of_gt h)
    rw [flatMap_nil, nil_append, readChars, if_pos rfl]
  | cons c chars ih =>
    obtain ⟨n, rfl⟩ := Nat.exists_eq_succ_of_ne_zero (Nat.ne_of_gt (Nat.zero_lt_of_lt h))
    obtain ⟨d, ds, hescape, hquote, hread⟩ := readChar_escapeChar c
    have hdrop : (ds ++ (chars.flatMap escapeChar ++ '"' :: rest)).drop ds.length =
        chars.flatMap escapeChar ++ '"' :: rest := drop_left
    rw [flatMap_cons, append_assoc, hescape, cons_append, readChars,
      if_neg hquote, hread]
    simp only [Option.bind_eq_bind, Option.bind_some, hdrop]
    rw [ih (Nat.lt_of_succ_lt_succ h)]; rfl

lemma length_escaped (chars : List Char) : chars.length ≤ (chars.flatMap escapeChar).length := by
  induction chars with
  | nil => exact Nat.le_refl _
  | cons c chars ih =>
    obtain ⟨d, ds, hescape, -⟩ := escapeChar_head c
    rw [flatMap_cons, length_append, hescape, length_cons, length_cons]
    omega

lemma readChars_literal (chars rest : List Char) :
    readChars (chars.flatMap escapeChar ++ '"' :: rest).length
      (chars.flatMap escapeChar ++ '"' :: rest) = some (chars, rest) := by
  refine readChars_escaped rest ?_
  have hlength := length_escaped chars
  rw [length_append, length_cons]; omega

/-- The text is read as the value, whatever stands behind it, if that continues no number. -/
def Reads (depth : ℕ) (text : String) (v : Json) : Prop :=
  ∀ rest, (∀ c ∈ rest.head?, c = ',' ∨ c = ']' ∨ c = '\x7d') →
    readValue depth (text.toList ++ rest) = some (v, rest)

variable {depth : ℕ}

theorem reads_quote (s : String) : Reads (depth + 1) (quote s) (.str s) := by
  intro rest _
  have hread := readChars_literal s.toList rest
  have htext : (quote s).toList ++ rest = '"' :: (s.toList.flatMap escapeChar ++ '"' :: rest) := by
    rw [toList_quote, cons_append, append_assoc]; rfl
  have hspace : ∀ cs, skipSpace ('"' :: cs) = '"' :: cs := fun cs => rfl
  rw [htext]; simp only [readValue, hspace, hread, Option.map_some, String.ofList_toList]

theorem reads_null : Reads (depth + 1) "null" .null := by
  intro rest _
  have hspace : skipSpace ("null".toList ++ rest) = 'n' :: 'u' :: 'l' :: 'l' :: rest := rfl
  simp only [readValue, hspace]

theorem reads_one : Reads (depth + 1) "1" (.num 1) := by
  intro rest hrest
  have hspace : skipSpace ("1".toList ++ rest) = '1' :: rest := rfl
  have hnumber : readNumber ('1' :: rest) = some (1, rest) := by
    cases rest with
    | nil => decide +kernel
    | cons c rest =>
      rcases hrest c rfl with rfl | rfl | rfl
      all_goals simp [readNumber, readUnsigned, readWhole, readDigits, readFraction, readExponent, digitsValue]
  simp only [readValue, hspace]
  show (readNumber ('1' :: rest)).map (fun (q, rest) => (Json.num q, rest)) = some (.num 1, rest)
  rw [hnumber]; rfl

structure Written where
  key : String
  text : String
  value : Json

def Written.chars (field : Written) : List Char := (quote field.key).toList ++ ':' :: field.text.toList

lemma readMember_written {value : List Char → Option (Json × List Char)} {field : Written}
    {rest : List Char}
    (h : value (field.text.toList ++ rest) = some (field.value, rest)) :
    readMember value (field.chars ++ rest) = some ((field.key, field.value), rest) := by
  have hread := readChars_literal field.key.toList (':' :: (field.text.toList ++ rest))
  have htext : field.chars ++ rest =
      '"' :: (field.key.toList.flatMap escapeChar ++ '"' :: ':' :: (field.text.toList ++ rest)) := by
    rw [Written.chars, toList_quote, append_assoc, cons_append, cons_append,
      append_assoc]
    rfl
  have hspace : ∀ cs, skipSpace ('"' :: cs) = '"' :: cs := fun cs => rfl
  have hcolon : ∀ cs, skipSpace (':' :: cs) = ':' :: cs := fun cs => rfl
  rw [htext]
  simp only [readMember, hspace, hread, Option.bind_eq_bind, Option.bind_some, hcolon, h,
    Option.map_some, String.ofList_toList]

section Items

variable {α β : Type} {close : Char} {item : List Char → Option (β × List Char)}
  {text : α → List Char} {value : α → β}

lemma readItems_joined (hclose : close = ']' ∨ close = '\x7d') {xs : List α} (hne : xs ≠ [])
    (hitem : ∀ x ∈ xs, ∀ rest, (∀ c ∈ rest.head?, c = ',' ∨ c = ']' ∨ c = '\x7d') →
      item (text x ++ rest) = some (value x, rest)) (rest : List Char) {n : ℕ}
    (hn : xs.length ≤ n) :
    readItems close item n (joined text xs ++ close :: rest) = some (xs.map value, rest) := by
  have hcomma : ∀ cs, skipSpace (',' :: cs) = ',' :: cs := fun cs => rfl
  have hend : ∀ cs, skipSpace (close :: cs) = close :: cs := by
    intro cs
    rcases hclose with rfl | rfl <;> rfl
  induction xs generalizing n with
  | nil => exact absurd rfl hne
  | cons x xs ih =>
    obtain ⟨n, rfl⟩ := Nat.exists_eq_succ_of_ne_zero
      (Nat.ne_of_gt (Nat.lt_of_lt_of_le (Nat.succ_pos xs.length) hn))
    have hfirst := hitem x mem_cons_self
    cases xs with
    | nil =>
      have hread := hfirst (close :: rest) fun c hc => by
        rw [← Option.some.inj hc]; exact .inr hclose
      have htext : joined text [x] ++ close :: rest = text x ++ close :: rest := by
        simp [joined, behindCommas]
      simp only [htext, readItems, hread, Option.bind_eq_bind, Option.bind_some, hend, if_true,
        map_cons, map_nil]
    | cons x' xs =>
      have htext : joined text (x :: x' :: xs) ++ close :: rest =
          text x ++ ',' :: (joined text (x' :: xs) ++ close :: rest) := by
        simp [joined, behindCommas, append_assoc]
      have hread := hfirst (',' :: (joined text (x' :: xs) ++ close :: rest)) fun c hc => by
        rw [← Option.some.inj hc]; exact .inl rfl
      have hnext := ih (cons_ne_nil _ _)
        (fun y hy => hitem y (mem_cons_of_mem x hy)) (Nat.le_of_succ_le_succ hn)
      have hother : ',' ≠ close := by rcases hclose with rfl | rfl <;> decide
      simp only [htext, readItems, hread, Option.bind_eq_bind, Option.bind_some, hcomma,
        if_neg hother, if_true, hnext, Option.map_some, map_cons]

end Items

lemma ofMembers_nodup {members : List (String × Json)} (h : (members.map (·.1)).Nodup) :
    ofMembers members = members := by
  have hgo : ∀ done : List (String × Json), ((done ++ members).map (·.1)).Nodup →
      members.foldl (fun object kv => setOwn object kv.1 kv.2) done = done ++ members := by
    induction members with
    | nil => simp
    | cons kv members ih =>
      intro done hdone
      have hnew : done.lookup kv.1 = none := by
        refine lookup_eq_none_iff.mpr fun kv' hmem => ?_
        rw [map_append, nodup_append] at hdone
        have hne := hdone.2.2 kv'.1 (mem_map_of_mem hmem) kv.1 (by simp)
        simpa using Ne.symm hne
      have hset : setOwn done kv.1 kv.2 = done ++ [kv] := by
        rw [setOwn, hnew]; rfl
      rw [foldl_cons, hset, ih (nodup_cons.mp h).2 _ (by simpa using hdone),
        append_assoc]
      rfl
  simpa [ofMembers] using hgo [] (by simpa using h)

def Written.object (fields : List Written) : Json := .obj (fields.map fun f => (f.key, f.value))

def Written.objectText (fields : List Written) : String :=
  Js.objectText (fields.map fun f => (f.key, f.text))

lemma toList_objectText (fields : List Written) : (Written.objectText fields).toList =
    '\x7b' :: (joined Written.chars fields ++ ['\x7d']) := by
  have hmember : ∀ f : Written, (quote f.key ++ ":" ++ f.text).toList = f.chars := by
    intro f
    rw [String.toList_append, String.toList_append, append_assoc]; rfl
  have hchars : joined String.toList (fields.map fun f => quote f.key ++ ":" ++ f.text) =
      joined Written.chars fields := by
    simp only [joined_map, hmember]
  unfold Written.objectText Js.objectText
  rw [String.toList_append, String.toList_append, toList_intercalate, map_map]
  show ['\x7b'] ++ joined String.toList (fields.map fun f => quote f.key ++ ":" ++ f.text) ++
    ['\x7d'] = _
  rw [hchars]; rfl

lemma joined_head (f : Written) (fields : List Written) :
    ∃ cs, joined Written.chars (f :: fields) = '"' :: cs := by
  refine ⟨(f.key.toList.flatMap escapeChar ++ ['"']) ++ ':' :: f.text.toList ++
    behindCommas Written.chars fields, ?_⟩
  simp [joined, Written.chars, toList_quote]

lemma length_joined (fields : List Written) :
    fields.length ≤ (joined Written.chars fields).length := by
  have hbehind : ∀ fields : List Written,
      fields.length ≤ (behindCommas Written.chars fields).length := by
    intro fields
    induction fields with
    | nil => exact Nat.le_refl _
    | cons f fields ih =>
      have hcons : behindCommas Written.chars (f :: fields) =
          ',' :: (f.chars ++ behindCommas Written.chars fields) := rfl
      rw [hcons, length_cons, length_cons, length_append]; omega
  cases fields with
  | nil => exact Nat.le_refl _
  | cons f fields =>
  have hquote : 0 < f.chars.length := by
    rw [Written.chars, toList_quote]; exact Nat.succ_pos _
  have hrest := hbehind fields
  rw [joined, length_append, length_cons]; omega

theorem reads_object {fields : List Written} (hread : ∀ f ∈ fields, Reads depth f.text f.value)
    (hkeys : (fields.map (·.key)).Nodup) (rest : List Char) :
    readValue (depth + 1) ((Written.objectText fields).toList ++ rest) =
      some (Written.object fields, rest) := by
  have hbrace : ∀ cs, skipSpace ('\x7b' :: cs) = '\x7b' :: cs := fun cs => rfl
  have htext : (Written.objectText fields).toList ++ rest =
      '\x7b' :: (joined Written.chars fields ++ '\x7d' :: rest) := by
    rw [toList_objectText, cons_append, append_assoc]; rfl
  have hlist : readList '\x7d' (readMember (readValue depth))
      (joined Written.chars fields ++ '\x7d' :: rest) =
        some (fields.map fun f => (f.key, f.value), rest) := by
    cases fields with
    | nil => rfl
    | cons f fields =>
    have hitems := readItems_joined (.inr rfl)
      (cons_ne_nil f fields)
      (fun g hg cs hcs => readMember_written (hread g hg cs hcs)) rest
      (n := (joined Written.chars (f :: fields) ++ '\x7d' :: rest).length) (by
        have hlength := length_joined (f :: fields)
        rw [length_append]
        omega)
    obtain ⟨cs, hhead⟩ := joined_head f fields
    have hquote : ∀ cs, skipSpace ('"' :: cs) = '"' :: cs := fun cs => rfl
    rw [← hitems]
    conv_lhs => rw [readList]
    rw [hhead, cons_append, hquote]; rfl
  have hmembers : ofMembers (fields.map fun f => (f.key, f.value)) =
      fields.map fun f => (f.key, f.value) :=
    ofMembers_nodup (by simpa [map_map, Function.comp_def] using hkeys)
  rw [htext]; simp only [readValue, hbrace, hlist, Option.map_some, hmembers]; rfl

theorem parseJson_objectText {fields : List Written}
    (hread : ∀ f ∈ fields, ∀ depth, Reads (depth + 1) f.text f.value)
    (hkeys : (fields.map (·.key)).Nodup) {space : String} (hspace : skipSpace space.toList = []) :
    parseJson (Written.objectText fields ++ space) = some (Written.object fields) := by
  have hlength : (Written.objectText fields ++ space).toList.length =
      (joined Written.chars fields ++ '\x7d' :: space.toList).length + 1 := by
    rw [String.toList_append, toList_objectText]; simp
  unfold parseJson
  rw [hlength, String.toList_append, reads_object (fun f hf => hread f hf _) hkeys]
  simp only [Option.bind_eq_bind, Option.bind_some, if_pos hspace]

end Js
