import Mathlib.Data.List.TakeWhile
import Mathlib.Tactic

/- JSON texts as byte strings: what a text stands for, and two ways to write one.

What is provided:
  1. `readText` — the value of a text, for objects and arrays that are nested up to a depth.
  2. `compact` — the text without white space, and with `<`, `>`, `&` and the line separators
     escaped in its strings.
  3. `quote` — a string literal that is escaped in the same way.
  4. `readValue_reader` — a value that was read is read again from its own text, whatever
     comes after it, and from its compact text.
  5. `readString_quote` — a string is read from its literal.

A number is its literal. A string is its bytes; an escape that is half of a surrogate pair
has no bytes of its own and is kept as it is until the string is decoded (`textOf`).
-/
namespace JsonText

open List

def isSpace (c : UInt8) : Bool := c = 32 || c = 9 || c = 10 || c = 13

def isPunct (c : UInt8) : Bool := c ∈ [123, 125, 91, 93, 44, 58]

def isDigit (c : UInt8) : Bool := 48 ≤ c && c ≤ 57

/-- The bytes that literals other than strings are made of. -/
def isAtomByte (c : UInt8) : Bool :=
  isDigit c || (97 ≤ c && c ≤ 122) || (65 ≤ c && c ≤ 90) || c = 43 || c = 45 || c = 46

def hexDigit (n : ℕ) : UInt8 := if n < 10 then UInt8.ofNat (48 + n) else UInt8.ofNat (87 + n)

def hexValue (c : UInt8) : Option ℕ :=
  if isDigit c then some (c.toNat - 48)
  else if 97 ≤ c && c ≤ 102 then some (c.toNat - 87)
  else if 65 ≤ c && c ≤ 70 then some (c.toNat - 55)
  else none

def hexUnit (a b c d : UInt8) : Option ℕ := do
  pure ((((← hexValue a) * 16 + (← hexValue b)) * 16 + (← hexValue c)) * 16 + (← hexValue d))

/-- What a backslash and a letter stand for. -/
def simpleEscape (c : UInt8) : Option UInt8 :=
  if c = 34 || c = 92 || c = 47 then some c
  else if c = 98 then some 8
  else if c = 102 then some 12
  else if c = 110 then some 10
  else if c = 114 then some 13
  else if c = 116 then some 9
  else none

inductive Piece where
  | byte (b : UInt8)
  /-- Half of a surrogate pair. -/
  | half (unit : ℕ)
  deriving DecidableEq

/-- What a `\u` escape stands for. -/
def unitPieces (unit : ℕ) : List Piece :=
  if 0xD800 ≤ unit ∧ unit ≤ 0xDFFF then [.half unit]
  else (String.utf8EncodeChar (Char.ofNat unit)).map .byte

/-- The rest of a string, up to its closing quote. The line separators U+2028 and U+2029 are
read as one. -/
def readString : List UInt8 → Option (List Piece × List UInt8)
  | [] => none
  | 92 :: 117 :: a :: b :: c :: d :: rest =>
    match hexUnit a b c d with
    | some unit => (readString rest).map fun r => (unitPieces unit ++ r.1, r.2)
    | none => none
  | 92 :: e :: rest =>
    match simpleEscape e with
    | some b => (readString rest).map fun r => (.byte b :: r.1, r.2)
    | none => none
  | 0xE2 :: 0x80 :: 0xA8 :: rest =>
    (readString rest).map fun r => (.byte 0xE2 :: .byte 0x80 :: .byte 0xA8 :: r.1, r.2)
  | 0xE2 :: 0x80 :: 0xA9 :: rest =>
    (readString rest).map fun r => (.byte 0xE2 :: .byte 0x80 :: .byte 0xA9 :: r.1, r.2)
  | c :: rest =>
    if c = 34 then some ([], rest)
    else if c < 32 || c = 92 then none
    else (readString rest).map fun r => (.byte c :: r.1, r.2)

def joinPieces : List Piece → List UInt8
  | [] => []
  | .byte b :: rest => b :: joinPieces rest
  | .half high :: .half low :: rest =>
    if high < 0xDC00 ∧ 0xDC00 ≤ low then
      String.utf8EncodeChar (Char.ofNat (0x10000 + (high - 0xD800) * 0x400 + (low - 0xDC00))) ++
        joinPieces rest
    else String.utf8EncodeChar '\uFFFD' ++ joinPieces (.half low :: rest)
  | .half _ :: rest => String.utf8EncodeChar '\uFFFD' ++ joinPieces rest

def decodeUtf8 : ℕ → List UInt8 → List Char
  | 0, _ => []
  | _, [] => []
  | fuel + 1, b :: rest =>
    match ByteArray.utf8DecodeChar? (b :: rest).toByteArray 0 with
    | some c => c :: decodeUtf8 fuel ((b :: rest).drop c.utf8Size)
    | none => '\uFFFD' :: decodeUtf8 fuel rest

def textOf (pieces : List Piece) : String :=
  .ofList (decodeUtf8 (joinPieces pieces).length (joinPieces pieces))

def piecesOf (s : String) : List Piece :=
  (s.toList.flatMap String.utf8EncodeChar).map .byte

/-! ## Tokens -/

inductive Token where
  | punct (c : UInt8)
  /-- A number, `true`, `false` or `null`. -/
  | atom (text : List UInt8)
  | str (pieces : List Piece)

def isExponent : List UInt8 → Bool
  | [] => true
  | c :: rest =>
    let digits := match rest with
      | 43 :: digits => digits
      | 45 :: digits => digits
      | _ => rest
    (c = 101 || c = 69) && digits ≠ [] && digits.all isDigit

def isFraction : List UInt8 → Bool
  | 46 :: rest => rest.takeWhile isDigit ≠ [] && isExponent (rest.dropWhile isDigit)
  | rest => isExponent rest

def isUnsigned (text : List UInt8) : Bool :=
  let whole := text.takeWhile isDigit
  whole ≠ [] && (whole = [48] || whole.head? ≠ some 48) && isFraction (text.dropWhile isDigit)

def isNumber : List UInt8 → Bool
  | 45 :: rest => isUnsigned rest
  | text => isUnsigned text

local instance lawfulBytes : LawfulBEq (List UInt8) := inferInstance

def isAtom (text : List UInt8) : Bool :=
  text ∈ [[116, 114, 117, 101], [102, 97, 108, 115, 101], [110, 117, 108, 108]] || isNumber text

def skipSpace (bytes : List UInt8) : List UInt8 := bytes.dropWhile isSpace

def nextToken (bytes : List UInt8) : Option (Token × List UInt8) :=
  match skipSpace bytes with
  | [] => none
  | c :: rest =>
    if isPunct c then some (.punct c, rest)
    else if c = 34 then (readString rest).map fun r => (.str r.1, r.2)
    else
      let text := (c :: rest).takeWhile isAtomByte
      if isAtom text then some (.atom text, (c :: rest).dropWhile isAtomByte) else none

def takePunct (c : UInt8) (bytes : List UInt8) : Option (List UInt8) :=
  match nextToken bytes with
  | some (.punct p, rest) => if p = c then some rest else none
  | _ => none

inductive Value where
  | atom (text : List UInt8)
  | str (pieces : List Piece)
  | arr (elements : List Value)
  | obj (members : List (List Piece × Value))

/-- Where an item begins: the first one at once, another one after a comma. -/
def itemStart (first : Bool) (bytes : List UInt8) : Option (List UInt8) :=
  if first then some bytes else takePunct 44 bytes

/-- Items with commas between them, up to a closing bracket. -/
def readItems {α : Type} (close : UInt8) (item : List UInt8 → Option (α × List UInt8)) :
    ℕ → Bool → List UInt8 → Option (List α × List UInt8)
  | 0, _, _ => none
  | fuel + 1, first, bytes =>
    match takePunct close bytes with
    | some rest => some ([], rest)
    | none => do
      let start ← itemStart first bytes
      let (x, rest) ← item start
      let (xs, rest) ← readItems close item fuel false rest
      pure (x :: xs, rest)

def readMember (read : List UInt8 → Option (Value × List UInt8)) (bytes : List UInt8) :
    Option ((List Piece × Value) × List UInt8) :=
  match nextToken bytes with
  | some (.str key, rest) =>
    (takePunct 58 rest).bind fun rest => (read rest).map fun r => ((key, r.1), r.2)
  | _ => none

/-- A value, as far as the tokens decide it: what is in an array or an object is read by
`nested`. -/
def readWith (nested : UInt8 → List UInt8 → Option (Value × List UInt8)) (bytes : List UInt8) :
    Option (Value × List UInt8) :=
  match nextToken bytes with
  | some (.atom text, rest) => some (.atom text, rest)
  | some (.str pieces, rest) => some (.str pieces, rest)
  | some (.punct c, rest) => nested c rest
  | none => none

/-- What comes after an opening bracket. -/
def readNested (read : List UInt8 → Option (Value × List UInt8)) (c : UInt8)
    (bytes : List UInt8) : Option (Value × List UInt8) :=
  if c = 91 then (readItems 93 read (bytes.length + 1) true bytes).map fun r => (.arr r.1, r.2)
  else if c = 123 then
    (readItems 125 (readMember read) (bytes.length + 1) true bytes).map fun r => (.obj r.1, r.2)
  else none

def readValue : ℕ → List UInt8 → Option (Value × List UInt8)
  | 0 => readWith fun _ _ => none
  | depth + 1 => readWith (readNested (readValue depth))

def readText (depth : ℕ) (bytes : List UInt8) : Option Value :=
  match readValue depth bytes with
  | some (value, rest) => if skipSpace rest = [] then some value else none
  | none => none

inductive Scan where
  | outside
  | inside
  | escaped

def compactFrom : Scan → List UInt8 → List UInt8
  | _, [] => []
  | .outside, c :: rest =>
    if isSpace c then compactFrom .outside rest
    else c :: compactFrom (if c = 34 then .inside else .outside) rest
  | .escaped, c :: rest => c :: compactFrom .inside rest
  | .inside, 0xE2 :: 0x80 :: 0xA8 :: rest =>
    [92, 117, 50, 48, 50, 56] ++ compactFrom .inside rest
  | .inside, 0xE2 :: 0x80 :: 0xA9 :: rest =>
    [92, 117, 50, 48, 50, 57] ++ compactFrom .inside rest
  | .inside, c :: rest =>
    if c = 34 then c :: compactFrom .outside rest
    else if c = 92 then c :: compactFrom .escaped rest
    else if c = 60 || c = 62 || c = 38 then
      [92, 117, 48, 48, hexDigit (c.toNat / 16), hexDigit (c.toNat % 16)] ++
        compactFrom .inside rest
    else c :: compactFrom .inside rest

def compact (bytes : List UInt8) : List UInt8 := compactFrom .outside bytes

def quoteChar (c : Char) : List UInt8 :=
  if c = '"' then [92, 34]
  else if c = '\\' then [92, 92]
  else if c.toNat = 8 then [92, 98]
  else if c.toNat = 12 then [92, 102]
  else if c = '\n' then [92, 110]
  else if c = '\r' then [92, 114]
  else if c = '\t' then [92, 116]
  else if c.toNat < 32 || c = '<' || c = '>' || c = '&' then
    [92, 117, 48, 48, hexDigit (c.toNat / 16), hexDigit (c.toNat % 16)]
  else if c.toNat = 0x2028 then [92, 117, 50, 48, 50, 56]
  else if c.toNat = 0x2029 then [92, 117, 50, 48, 50, 57]
  else String.utf8EncodeChar c

def quote (s : String) : List UInt8 := 34 :: s.toList.flatMap quoteChar ++ [34]

example : (readText 2 "\x7b\"a\\u003c\": [1, \"\"]\x7d".toByteArray.data.toList).isSome := by
  decide

/-! ## Compact strings -/

def Ends (scan : Scan) (text : List UInt8) : Prop :=
  ∀ more, compactFrom scan (text ++ more) = compactFrom scan text ++ compact more

section Strings

variable {scan : Scan} {bytes text rest : List UInt8} {pieces : List Piece} {c : UInt8}

lemma Ends.append {a b : List UInt8} (ha : Ends scan a) (hb : Ends .outside b) :
    Ends scan (a ++ b) := by
  intro more
  rw [append_assoc, ha, ha, append_assoc]; exact congrArg _ (hb more)

lemma compactFrom_escape (a : UInt8) (rest : List UInt8) :
    compactFrom .inside (92 :: a :: rest) = 92 :: a :: compactFrom .inside rest := by
  simp [compactFrom]

lemma hexValue_plain (h : (hexValue c).isSome) :
    c ≠ 34 ∧ c ≠ 92 ∧ c ≠ 60 ∧ c ≠ 62 ∧ c ≠ 38 ∧ c ≠ 0xE2 := by
  refine ⟨?_, ?_, ?_, ?_, ?_, ?_⟩ <;> (rintro rfl; revert h; decide)

lemma compactFrom_plain (h : c ≠ 34 ∧ c ≠ 92 ∧ c ≠ 60 ∧ c ≠ 62 ∧ c ≠ 38 ∧ c ≠ 0xE2)
    (rest : List UInt8) : compactFrom .inside (c :: rest) = c :: compactFrom .inside rest := by
  obtain ⟨h1, h2, h3, h4, h5, h6⟩ := h
  rw [compactFrom]
  · simp [h1, h2, h3, h4, h5]
  all_goals (intro _ hc; exact absurd hc h6)

lemma hexUnit_digits {a b c d : UInt8} {unit : ℕ} (h : hexUnit a b c d = some unit) :
    (hexValue a).isSome ∧ (hexValue b).isSome ∧ (hexValue c).isSome ∧ (hexValue d).isSome := by
  obtain ⟨va, ha, h⟩ := Option.bind_eq_some_iff.mp h
  obtain ⟨vb, hb, h⟩ := Option.bind_eq_some_iff.mp h
  obtain ⟨vc, hc, h⟩ := Option.bind_eq_some_iff.mp h
  obtain ⟨vd, hd, -⟩ := Option.bind_eq_some_iff.mp h; simp [ha, hb, hc, hd]

lemma compactFrom_unit {a b c d : UInt8} {unit : ℕ} (h : hexUnit a b c d = some unit)
    (rest : List UInt8) : compactFrom .inside (92 :: 117 :: a :: b :: c :: d :: rest) =
      92 :: 117 :: a :: b :: c :: d :: compactFrom .inside rest := by
  obtain ⟨ha, hb, hc, hd⟩ := hexUnit_digits h
  rw [compactFrom_escape, compactFrom_plain (hexValue_plain ha),
    compactFrom_plain (hexValue_plain hb), compactFrom_plain (hexValue_plain hc), compactFrom_plain (hexValue_plain hd)]

/-- What a scan writes for a byte of a string that does not end it. -/
def emitted (c : UInt8) : List UInt8 :=
  if c = 60 || c = 62 || c = 38 then
    [92, 117, 48, 48, hexDigit (c.toNat / 16), hexDigit (c.toNat % 16)]
  else [c]

lemma compactFrom_emitted (hquote : c ≠ 34) (hslash : c ≠ 92)
    (hseparator : ∀ y after, c = 0xE2 → rest = 0x80 :: y :: after → y ≠ 0xA8 ∧ y ≠ 0xA9) :
    compactFrom .inside (c :: rest) = emitted c ++ compactFrom .inside rest := by
  rw [compactFrom, if_neg hquote, if_neg hslash, emitted]
  · split <;> rfl
  · exact fun after hc hrest => (hseparator _ after hc hrest).1 rfl
  · exact fun after hc hrest => (hseparator _ after hc hrest).2 rfl

lemma readString_byte (hquote : c ≠ 34) (hslash : c ≠ 92) (hcontrol : ¬ c < 32)
    (rest : List UInt8) :
    readString (c :: rest) = (readString rest).map fun r => ([.byte c] ++ r.1, r.2) := by
  by_cases hseparator : ∃ y after, c = 0xE2 ∧ rest = 0x80 :: y :: after ∧ (y = 0xA8 ∨ y = 0xA9)
  · obtain ⟨y, after, rfl, rfl, rfl | rfl⟩ := hseparator
    · simp [readString, Function.comp_def]
    · simp [readString, Function.comp_def]
  · rw [readString]
    · simp [hquote, hslash, hcontrol]
    · exact fun _ _ _ _ _ hc => absurd hc hslash
    · exact fun _ _ hc => absurd hc hslash
    · exact fun after hc hrest => hseparator ⟨_, after, hc, hrest, .inl rfl⟩
    · exact fun after hc hrest => hseparator ⟨_, after, hc, hrest, .inr rfl⟩

lemma readString_unit {a b c d : UInt8} {unit : ℕ} (h : hexUnit a b c d = some unit)
    (rest : List UInt8) : readString (92 :: 117 :: a :: b :: c :: d :: rest) =
      (readString rest).map fun r => (unitPieces unit ++ r.1, r.2) := by
  rw [readString, h]

lemma readString_emitted (hquote : c ≠ 34) (hslash : c ≠ 92) (hcontrol : ¬ c < 32)
    (rest : List UInt8) :
    readString (emitted c ++ rest) = (readString rest).map fun r => ([.byte c] ++ r.1, r.2) := by
  unfold emitted
  split
  · next hescaped =>
    simp only [Bool.or_eq_true, decide_eq_true_eq, or_assoc] at hescaped
    rcases hescaped with rfl | rfl | rfl
    · exact readString_unit (show hexUnit 48 48 51 99 = some 60 by decide) rest
    · exact readString_unit (show hexUnit 48 48 51 101 = some 62 by decide) rest
    · exact readString_unit (show hexUnit 48 48 50 54 = some 38 by decide) rest
  · exact readString_byte hquote hslash hcontrol rest

lemma ends_extend (before written : List UInt8) {body : List UInt8} {new : List Piece}
    (hwritten : ∀ more, compactFrom .inside (before ++ (body ++ [34] ++ more)) =
      written ++ compactFrom .inside (body ++ [34] ++ more))
    (hbefore : ∀ tail, readString (before ++ tail) =
      (readString tail).map fun r => (new ++ r.1, r.2))
    (hread : ∀ tail, readString (written ++ tail) =
      (readString tail).map fun r => (new ++ r.1, r.2))
    (hends : Ends .inside (body ++ [34]))
    (hbody : ∀ tail, readString (body ++ [34] ++ tail) = some (pieces, tail) ∧
      readString (compactFrom .inside (body ++ [34]) ++ tail) = some (pieces, tail)) :
    Ends .inside (before ++ body ++ [34]) ∧
      ∀ tail, readString (before ++ body ++ [34] ++ tail) = some (new ++ pieces, tail) ∧
        readString (compactFrom .inside (before ++ body ++ [34]) ++ tail) =
          some (new ++ pieces, tail) := by
  have hall : compactFrom .inside (before ++ body ++ [34]) =
      written ++ compactFrom .inside (body ++ [34]) := by
    have hnone := hwritten []
    rwa [append_nil, ← append_assoc] at hnone
  refine ⟨fun more => ?_, fun tail => ⟨?_, ?_⟩⟩
  · have hmore := hwritten more
    rw [hends, ← append_assoc, ← append_assoc, ← append_assoc] at hmore
    rw [hmore, hall]
  · rw [append_assoc before, append_assoc, hbefore, (hbody tail).1]; rfl
  · rw [hall, append_assoc, hread, (hbody tail).2]; rfl

/-- A string that was read is read again from its own text, and from what a scan writes for
it. -/
lemma readString_compact (h : readString bytes = some (pieces, rest)) :
    ∃ body, bytes = body ++ [34] ++ rest ∧ Ends .inside (body ++ [34]) ∧
      ∀ tail, readString (body ++ [34] ++ tail) = some (pieces, tail) ∧
        readString (compactFrom .inside (body ++ [34]) ++ tail) = some (pieces, tail) := by
  fun_induction readString bytes generalizing pieces rest with
  | case1 => cases h
  | case2 a b c d rest' unit hunit ih =>
    obtain ⟨⟨others, rest⟩, hothers, hr⟩ := Option.map_eq_some_iff.mp h
    cases hr
    obtain ⟨body, rfl, hends, hbody⟩ := ih hothers
    obtain ⟨hends', hbody'⟩ := ends_extend [92, 117, a, b, c, d] [92, 117, a, b, c, d]
      (fun more => compactFrom_unit hunit _) (fun tail => readString_unit hunit tail)
      (fun tail => readString_unit hunit tail) hends hbody
    exact ⟨_, rfl, hends', hbody'⟩
  | case3 => cases h
  | case4 e rest' hunit b hescape ih =>
    obtain ⟨⟨others, rest⟩, hothers, hr⟩ := Option.map_eq_some_iff.mp h
    cases hr
    obtain ⟨body, rfl, hends, hbody⟩ := ih hothers
    have hread : ∀ tail, readString ([92, e] ++ tail) =
        (readString tail).map fun r => ([.byte b] ++ r.1, r.2) := by
      intro tail
      have hletter : e ≠ 117 := by
        rintro rfl; cases hescape
      rw [cons_append, cons_append, nil_append, readString, hescape]
      · rfl
      · exact fun _ _ _ _ _ he => absurd he hletter
    obtain ⟨hends', hbody'⟩ := ends_extend [92, e] [92, e]
      (fun more => compactFrom_escape e _) hread hread hends hbody
    exact ⟨_, rfl, hends', hbody'⟩
  | case5 => cases h
  | case6 rest' ih =>
    obtain ⟨⟨others, rest⟩, hothers, hr⟩ := Option.map_eq_some_iff.mp h
    cases hr
    obtain ⟨body, rfl, hends, hbody⟩ := ih hothers
    obtain ⟨hends', hbody'⟩ := ends_extend [0xE2, 0x80, 0xA8] [92, 117, 50, 48, 50, 56]
      (fun more => by simp [compactFrom]) (fun tail => by rw [cons_append]; rfl)
      (readString_unit (show hexUnit 50 48 50 56 = some 0x2028 by decide)) hends hbody
    exact ⟨_, rfl, hends', hbody'⟩
  | case7 rest' ih =>
    obtain ⟨⟨others, rest⟩, hothers, hr⟩ := Option.map_eq_some_iff.mp h
    cases hr
    obtain ⟨body, rfl, hends, hbody⟩ := ih hothers
    obtain ⟨hends', hbody'⟩ := ends_extend [0xE2, 0x80, 0xA9] [92, 117, 50, 48, 50, 57]
      (fun more => by simp [compactFrom]) (fun tail => by rw [cons_append]; rfl)
      (readString_unit (show hexUnit 50 48 50 57 = some 0x2029 by decide)) hends hbody
    exact ⟨_, rfl, hends', hbody'⟩
  | case8 rest' =>
    cases h
    exact ⟨[], rfl, fun more => by simp [compactFrom, compact],
      fun tail => ⟨by simp [readString], by simp [compactFrom, readString]⟩⟩
  | case9 => cases h
  | case10 c rest' hunit hescape hfirst hsecond hquote hplain ih =>
    obtain ⟨⟨others, rest⟩, hothers, hr⟩ := Option.map_eq_some_iff.mp h
    cases hr
    obtain ⟨body, rfl, hends, hbody⟩ := ih hothers
    simp only [Bool.or_eq_true, decide_eq_true_eq, not_or] at hplain
    have hwritten : ∀ more, compactFrom .inside ([c] ++ (body ++ [34] ++ more)) =
        emitted c ++ compactFrom .inside (body ++ [34] ++ more) := by
      -- a separator in the text with another end was one in the text that was read
      refine fun more => compactFrom_emitted hquote hplain.2 fun y after hc hafter => ?_
      match body, hafter with
      | [], hafter => simp at hafter
      | [x], hafter =>
        obtain ⟨-, hafter⟩ := cons.inj hafter
        rw [← (cons.inj hafter).1]; decide
      | x :: x' :: body, hafter =>
        obtain ⟨hx, hafter⟩ := cons.inj hafter
        have hx' := (cons.inj hafter).1
        exact ⟨fun hy => hfirst _ hc (by rw [hx, hx', hy]; rfl),
          fun hy => hsecond _ hc (by rw [hx, hx', hy]; rfl)⟩
    obtain ⟨hends', hbody'⟩ := ends_extend [c] (emitted c) hwritten
      (readString_byte hquote hplain.2 hplain.1) (readString_emitted hquote hplain.2 hplain.1)
      hends hbody
    exact ⟨_, rfl, hends', hbody'⟩

end Strings

def Bounded (text : List UInt8) : Prop := ∀ c ∈ text.head?, isAtomByte c = false

section Tokens

variable {bytes text rest : List UInt8} {token : Token} {c : UInt8}

lemma space_plain (h : isSpace c) : isPunct c = false ∧ c ≠ 34 ∧ isAtomByte c = false := by
  simp only [isSpace, Bool.or_eq_true, decide_eq_true_eq, or_assoc] at h
  rcases h with rfl | rfl | rfl | rfl <;> decide

lemma punct_plain (h : isPunct c) : isSpace c = false ∧ c ≠ 34 ∧ isAtomByte c = false := by
  simp only [isPunct, decide_eq_true_eq, mem_cons, not_mem_nil, or_false] at h
  rcases h with rfl | rfl | rfl | rfl | rfl | rfl <;> decide

lemma bounded_cons {c : UInt8} (h : isPunct c) (tail : List UInt8) :
    Bounded (c :: tail) := by
  intro b hb
  cases hb; exact (punct_plain h).2.2

lemma atomByte_plain (h : isAtomByte c) :
    isSpace c = false ∧ isPunct c = false ∧ c ≠ 34 := by
  refine ⟨?_, ?_, ?_⟩
  · by_contra hspace
    exact absurd (space_plain (Bool.not_eq_false _ ▸ hspace)).2.2 (by simp [h])
  · by_contra hpunct
    exact absurd (punct_plain (Bool.not_eq_false _ ▸ hpunct)).2.2 (by simp [h])
  · rintro rfl; cases h

lemma spaces_skipSpace (bytes : List UInt8) :
    ∃ spaces, bytes = spaces ++ skipSpace bytes ∧ ∀ c ∈ spaces, isSpace c :=
  ⟨bytes.takeWhile isSpace, takeWhile_append_dropWhile.symm,
    fun _ hc => mem_takeWhile_imp hc⟩

lemma skipSpace_cons (h : isSpace c = false) (rest : List UInt8) :
    skipSpace (c :: rest) = c :: rest := by
  rw [skipSpace, dropWhile_cons_of_neg (by simp [h])]

lemma compact_spaces {spaces : List UInt8} (h : ∀ c ∈ spaces, isSpace c)
    (more : List UInt8) : compact (spaces ++ more) = compact more := by
  induction spaces with
  | nil => rfl
  | cons c spaces ih =>
    rw [forall_mem_cons] at h
    rw [cons_append, compact, compactFrom, if_pos h.1]; exact ih h.2

lemma ends_spaces {spaces : List UInt8} (h : ∀ c ∈ spaces, isSpace c) :
    Ends .outside spaces := by
  intro more
  have hnone := compact_spaces h []
  rw [append_nil] at hnone
  exact (compact_spaces h more).trans (by rw [← compact, hnone]; rfl)

lemma compact_skipSpace (bytes : List UInt8) : compact (skipSpace bytes) = compact bytes := by
  obtain ⟨spaces, hbytes, hspaces⟩ := spaces_skipSpace bytes
  conv_rhs => rw [hbytes, compact_spaces hspaces]

lemma compact_punct (h : isPunct c) (more : List UInt8) :
    compact (c :: more) = c :: compact more := by
  obtain ⟨hspace, hquote, -⟩ := punct_plain h
  rw [compact, compactFrom, if_neg (by simp [hspace]), if_neg hquote]; rfl

lemma compact_atom (h : ∀ c ∈ text, isAtomByte c) (more : List UInt8) :
    compact (text ++ more) = text ++ compact more := by
  induction text with
  | nil => rfl
  | cons c text ih =>
    rw [forall_mem_cons] at h
    obtain ⟨hspace, -, hquote⟩ := atomByte_plain h.1
    rw [cons_append, compact, compactFrom, if_neg (by simp [hspace]), if_neg hquote]
    exact congrArg _ (ih h.2)

lemma nextToken_skipSpace (bytes : List UInt8) :
    nextToken (skipSpace bytes) = nextToken bytes := by
  have hidem : skipSpace (skipSpace bytes) = skipSpace bytes := by
    have hnot := List.head?_dropWhile_not isSpace bytes
    unfold skipSpace
    cases hskip : bytes.dropWhile isSpace with
    | nil => rfl
    | cons c rest => rw [hskip, List.head?_cons] at hnot; exact skipSpace_cons hnot rest
  rw [nextToken, hidem]; rfl

lemma nextToken_punct (h : isPunct c) (rest : List UInt8) :
    nextToken (c :: rest) = some (.punct c, rest) := by
  rw [nextToken, skipSpace_cons (punct_plain h).1]; exact if_pos h

lemma nextToken_string {pieces : List Piece} (h : readString text = some (pieces, rest)) :
    nextToken (34 :: text) = some (.str pieces, rest) := by
  rw [nextToken, skipSpace_cons (by decide)]; simp [isPunct, h]

lemma nextToken_atom (h : isAtom text) (hbytes : ∀ c ∈ text, isAtomByte c)
    (hrest : Bounded rest) : nextToken (text ++ rest) = some (.atom text, rest) := by
  have hends : rest.takeWhile isAtomByte = [] ∧ rest.dropWhile isAtomByte = rest := by
    cases rest with
    | nil => exact ⟨rfl, rfl⟩
    | cons c rest =>
      have hc : ¬ isAtomByte c := by simp [hrest c rfl]
      exact ⟨takeWhile_cons_of_neg hc, dropWhile_cons_of_neg hc⟩
  have htake : (text ++ rest).takeWhile isAtomByte = text := by
    rw [takeWhile_append_of_pos hbytes, hends.1, append_nil]
  have hdrop : (text ++ rest).dropWhile isAtomByte = rest := by
    rw [dropWhile_append_of_pos hbytes, hends.2]
  cases text with
  | nil => cases h
  | cons c text =>
  obtain ⟨hspace, hpunct, hquote⟩ := atomByte_plain (hbytes c mem_cons_self)
  rw [nextToken, cons_append, skipSpace_cons hspace]
  simp only
  rw [← cons_append, htake, hdrop, if_neg (by simp [hpunct]), if_neg hquote, if_pos h]

lemma nextToken_cases (h : nextToken bytes = some (token, rest)) :
    (∃ c, token = .punct c ∧ isPunct c ∧ skipSpace bytes = c :: rest) ∨
    (∃ pieces text, token = .str pieces ∧ skipSpace bytes = 34 :: text ∧
      readString text = some (pieces, rest)) ∨
    ∃ text, token = .atom text ∧ isAtom text ∧ (∀ c ∈ text, isAtomByte c) ∧
      skipSpace bytes = text ++ rest ∧ Bounded rest := by
  unfold nextToken at h
  split at h
  · cases h
  next c after hskip =>
  split at h
  · next hpunct =>
    cases h; exact .inl ⟨c, rfl, hpunct, hskip⟩
  · split at h
    · next hquote =>
      obtain ⟨⟨pieces, rest⟩, hread, hr⟩ := Option.map_eq_some_iff.mp h
      cases hr; exact .inr (.inl ⟨pieces, after, rfl, by rw [hskip, hquote], hread⟩)
    · simp only at h
      split at h
      · next hatom =>
        cases h
        refine .inr (.inr ⟨_, rfl, hatom, fun _ hc => mem_takeWhile_imp hc, ?_, ?_⟩)
        · rw [hskip, takeWhile_append_dropWhile]
        intro b hb
        have hnot := List.head?_dropWhile_not isAtomByte (c :: after)
        rw [Option.mem_def.mp hb] at hnot; exact hnot
      · cases h

lemma nextToken_compact (h : nextToken bytes = some (token, rest)) :
    ∃ text, bytes = text ++ rest ∧ Ends .outside text ∧
      (∀ c, token = .punct c → compact text = [c]) ∧
      ∀ tail, ((∃ w, token = .atom w) → Bounded tail) →
        nextToken (compact text ++ tail) = some (token, tail) := by
  obtain ⟨spaces, hbytes, hspaces⟩ := spaces_skipSpace bytes
  rcases nextToken_cases h with ⟨c, rfl, hpunct, hskip⟩ | ⟨pieces, text, rfl, hskip, hread⟩ |
    ⟨text, rfl, hatom, hplain, hskip, -⟩
  · have hone : compact [c] = [c] := compact_punct hpunct []
    refine ⟨spaces ++ [c], by rw [hbytes, hskip]; simp, (ends_spaces hspaces).append
      fun more => ?_, fun p hp => ?_, fun tail _ => ?_⟩
    · exact (compact_punct hpunct more).trans (by rw [← compact, hone]; rfl)
    · cases hp
      rw [compact_spaces hspaces, hone]
    · rw [compact_spaces hspaces, hone]; exact nextToken_punct hpunct tail
  · obtain ⟨body, rfl, hends, hbody⟩ := readString_compact hread
    have hquote : ∀ more, compact (34 :: more) = 34 :: compactFrom .inside more := fun _ => rfl
    refine ⟨spaces ++ 34 :: (body ++ [34]), by rw [hbytes, hskip]; simp,
      (ends_spaces hspaces).append fun more => ?_, nofun, fun tail _ => ?_⟩
    · exact congrArg _ (hends more)
    · rw [compact_spaces hspaces, hquote]; exact nextToken_string (hbody tail).2
  · have hcompact : compact text = text := by
      have hnone := compact_atom hplain []
      rwa [append_nil, show compact [] = [] from rfl, append_nil] at hnone
    refine ⟨spaces ++ text, by rw [hbytes, hskip, append_assoc],
      (ends_spaces hspaces).append fun more => ?_, nofun, fun tail htail => ?_⟩
    · exact (compact_atom hplain more).trans (by rw [← compact, hcompact])
    · rw [compact_spaces hspaces, hcompact]
      exact nextToken_atom hatom hplain (htail ⟨_, rfl⟩)

lemma nextToken_length (h : nextToken bytes = some (token, rest)) :
    rest.length < (skipSpace bytes).length := by
  rcases nextToken_cases h with ⟨c, -, -, hskip⟩ | ⟨pieces, text, -, hskip, hread⟩ |
    ⟨text, -, hatom, -, hskip, -⟩
  · rw [hskip]; simp
  · obtain ⟨body, rfl, -, -⟩ := readString_compact hread
    rw [hskip]; simp; omega
  · have hne : text ≠ [] := by
      rintro rfl; cases hatom
    rw [hskip, length_append]
    have hpos := length_pos_iff.mpr hne; omega

lemma skipSpace_length (bytes : List UInt8) : (skipSpace bytes).length ≤ bytes.length :=
  length_dropWhile_le _ _

lemma takePunct_eq_some : takePunct c bytes = some rest ↔
    nextToken bytes = some (.punct c, rest) := by
  unfold takePunct
  split
  · next p after hnext =>
    rw [hnext]
    by_cases hp : p = c <;> simp [hp]
  · next hother =>
    refine iff_of_false (by simp) fun hnext => ?_
    exact hother _ _ hnext

lemma takePunct_cons (h : isPunct c) (rest : List UInt8) :
    takePunct c (c :: rest) = some rest := takePunct_eq_some.mpr (nextToken_punct h rest)

end Tokens

/-! ## Respelled values -/

structure Respelling (f : List UInt8 → List UInt8) : Prop where
  token : ∀ {bytes token rest}, nextToken bytes = some (token, rest) →
    ∃ text, bytes = text ++ rest ∧ (∀ more, f (text ++ more) = f text ++ f more) ∧
      ∀ tail, ((∃ w, token = .atom w) → Bounded tail) →
        nextToken (f text ++ tail) = some (token, tail) ∧
          ((∃ c, token = .punct c) → Bounded (f text ++ tail))

lemma compact_respelling : Respelling compact where
  token := by
    intro bytes token rest h
    obtain ⟨text, hbytes, hends, hone, hagain⟩ := nextToken_compact h
    refine ⟨text, hbytes, hends, fun tail htail => ⟨hagain tail htail, ?_⟩⟩
    rintro ⟨c, rfl⟩
    rw [hone c rfl]
    rcases nextToken_cases h with ⟨p, hp, hpunct, -⟩ | ⟨_, _, hp, -⟩ | ⟨_, hp, -⟩
    · cases hp; exact bounded_cons hpunct tail
    · cases hp
    · cases hp

lemma id_respelling : Respelling id where
  token := by
    intro bytes token rest h
    obtain ⟨spaces, hbytes, hspaces⟩ := spaces_skipSpace bytes
    have hskip : ∀ {c : UInt8} (more : List UInt8), isSpace c = false →
        nextToken (spaces ++ c :: more) = nextToken (c :: more) := by
      intro c more hc
      rw [← nextToken_skipSpace, skipSpace, dropWhile_append_of_pos hspaces, ← skipSpace,
        skipSpace_cons hc]
    rcases nextToken_cases h with ⟨c, rfl, hpunct, htext⟩ | ⟨pieces, text, rfl, htext, hread⟩ |
      ⟨text, rfl, hatom, hplain, htext, -⟩
    · refine ⟨spaces ++ [c], by rw [hbytes, htext]; simp, fun _ => rfl,
        fun tail _ => ⟨?_, fun _ => ?_⟩⟩
      · rw [id, append_assoc]
        exact (hskip tail (punct_plain hpunct).1).trans (nextToken_punct hpunct tail)
      · cases spaces with
        | nil => exact bounded_cons hpunct tail
        | cons space spaces =>
          intro b hb
          cases hb; exact (space_plain (hspaces _ mem_cons_self)).2.2
    · obtain ⟨body, rfl, -, hbody⟩ := readString_compact hread
      refine ⟨spaces ++ 34 :: (body ++ [34]), by rw [hbytes, htext]; simp, fun _ => rfl,
        fun tail _ => ⟨?_, fun hp => by obtain ⟨c, hc⟩ := hp; cases hc⟩⟩
      rw [id, append_assoc, cons_append]
      exact (hskip _ (by decide)).trans (nextToken_string (hbody tail).1)
    · have hne : text ≠ [] := by
        rintro rfl; cases hatom
      obtain ⟨c, after, rfl⟩ := exists_cons_of_ne_nil hne
      refine ⟨spaces ++ c :: after, by rw [hbytes, htext, append_assoc], fun _ => rfl,
        fun tail htail => ⟨?_, fun hp => by obtain ⟨c, hc⟩ := hp; cases hc⟩⟩
      rw [id, append_assoc, cons_append]
      exact (hskip _ (atomByte_plain (hplain c mem_cons_self)).1).trans
        (nextToken_atom hatom hplain (htail ⟨_, rfl⟩))

structure Reader {α : Type} (f : List UInt8 → List UInt8)
    (read : List UInt8 → Option (α × List UInt8)) : Prop where
  length : ∀ {bytes x rest}, read bytes = some (x, rest) → rest.length < (skipSpace bytes).length
  opens : ∀ {bytes x rest}, read bytes = some (x, rest) →
    ∀ c rest', nextToken bytes = some (.punct c, rest') → c = 91 ∨ c = 123
  respells : ∀ {bytes x rest}, read bytes = some (x, rest) →
    ∃ text, bytes = text ++ rest ∧ (∀ more, f (text ++ more) = f text ++ f more) ∧
      ∀ tail, Bounded tail → read (f text ++ tail) = some (x, tail)

section Values

variable {α : Type} {f : List UInt8 → List UInt8} {item : List UInt8 → Option (α × List UInt8)}
  {close : UInt8} {fuel : ℕ} {first : Bool} {bytes rest : List UInt8} {xs : List α}
  {read : List UInt8 → Option (Value × List UInt8)}

lemma Respelling.punct (hf : Respelling f) {c : UInt8} (h : takePunct c bytes = some rest) :
    ∃ text, bytes = text ++ rest ∧ (∀ more, f (text ++ more) = f text ++ f more) ∧
      ∀ tail, takePunct c (f text ++ tail) = some tail ∧ Bounded (f text ++ tail) := by
  obtain ⟨text, hbytes, hsplit, hagain⟩ := hf.token (takePunct_eq_some.mp h)
  refine ⟨text, hbytes, hsplit, fun tail => ?_⟩
  obtain ⟨hnext, hbounded⟩ := hagain tail fun hatom => by obtain ⟨w, hw⟩ := hatom; cases hw
  exact ⟨takePunct_eq_some.mpr hnext, hbounded ⟨c, rfl⟩⟩

lemma split_append {a b : List UInt8} (ha : ∀ more, f (a ++ more) = f a ++ f more)
    (hb : ∀ more, f (b ++ more) = f b ++ f more) (more : List UInt8) :
    f (a ++ b ++ more) = f (a ++ b) ++ f more := by
  rw [append_assoc, ha, ha, hb, append_assoc]

lemma takePunct_other {c p : UInt8} (h : takePunct c bytes = some rest) (hne : p ≠ c) :
    takePunct p bytes = none := by
  cases htake : takePunct p bytes with
  | none => rfl
  | some after =>
    have hnext := (takePunct_eq_some.mp htake).symm.trans (takePunct_eq_some.mp h)
    cases hnext; exact absurd rfl hne

lemma readItems_inv (h : readItems close item (fuel + 1) first bytes = some (xs, rest)) :
    takePunct close bytes = some rest ∧ xs = [] ∨
    takePunct close bytes = none ∧ ∃ start x after others,
      itemStart first bytes = some start ∧
      item start = some (x, after) ∧
      readItems close item fuel false after = some (others, rest) ∧ xs = x :: others := by
  unfold readItems at h
  split at h
  · next after hclose =>
    cases h; exact .inl ⟨hclose, rfl⟩
  · next hclose =>
    obtain ⟨start, hstart, h⟩ := Option.bind_eq_some_iff.mp h
    obtain ⟨⟨x, after⟩, hitem, h⟩ := Option.bind_eq_some_iff.mp h
    obtain ⟨⟨others, last⟩, hothers, h⟩ := Option.bind_eq_some_iff.mp h
    cases h; exact .inr ⟨hclose, start, x, after, others, hstart, hitem, hothers, rfl⟩

lemma readItems_close (h : takePunct close bytes = some rest) :
    readItems close item (fuel + 1) first bytes = some ([], rest) := by
  rw [readItems, h]

lemma readItems_cons {start after : List UInt8} {x : α} {others : List α}
    (hclose : takePunct close bytes = none)
    (hstart : itemStart first bytes = some start)
    (hitem : item start = some (x, after))
    (hothers : readItems close item fuel false after = some (others, rest)) :
    readItems close item (fuel + 1) first bytes = some (x :: others, rest) := by
  rw [readItems, hclose]
  simp only [hstart, hitem, hothers, Option.bind_eq_bind, Option.bind_some]; rfl

lemma Reader.not_close (hitem : Reader f item) (hclose : close = 93 ∨ close = 125) {x : α}
    (h : item bytes = some (x, rest)) : takePunct close bytes = none := by
  cases htake : takePunct close bytes with
  | none => rfl
  | some after =>
    have hopens := hitem.opens h close after (takePunct_eq_some.mp htake)
    rcases hclose with rfl | rfl <;> simp at hopens

lemma readItems_length (hitem : Reader f item)
    (h : readItems close item fuel first bytes = some (xs, rest)) :
    xs.length + rest.length < bytes.length := by
  induction fuel generalizing first bytes xs with
  | zero => cases h
  | succ fuel ih =>
    have hskip := skipSpace_length bytes
    rcases readItems_inv h with ⟨htake, rfl⟩ | ⟨-, start, x, after, others, hstart, hx, hothers,
      rfl⟩
    · have hlt := nextToken_length (takePunct_eq_some.mp htake)
      simp only [length_nil]; omega
    · have hle : start.length ≤ bytes.length := by
        unfold itemStart at hstart
        split at hstart
        · rw [Option.some.inj hstart]
        · have hlt := nextToken_length (takePunct_eq_some.mp hstart); omega
      have hafter := hitem.length hx
      have hstartSkip := skipSpace_length start
      have hrest := ih hothers; simp only [length_cons]; omega

lemma readItems_fuel (h : readItems close item fuel first bytes = some (xs, rest)) {more : ℕ}
    (hmore : xs.length < more) : readItems close item more first bytes = some (xs, rest) := by
  induction fuel generalizing first bytes xs more with
  | zero => cases h
  | succ fuel ih =>
    obtain ⟨more, rfl⟩ : ∃ n, more = n + 1 := ⟨more - 1, by omega⟩
    rcases readItems_inv h with ⟨htake, rfl⟩ | ⟨hclose, start, x, after, others, hstart, hx,
      hothers, rfl⟩
    · exact readItems_close htake
    · rw [length_cons] at hmore
      exact readItems_cons hclose hstart hx (ih hothers (by omega))

lemma readItems_respelled (hf : Respelling f) (hitem : Reader f item)
    (hclose : close = 93 ∨ close = 125)
    (h : readItems close item fuel first bytes = some (xs, rest)) :
    ∃ text, bytes = text ++ rest ∧ (∀ more, f (text ++ more) = f text ++ f more) ∧
      (∀ tail, readItems close item fuel first (f text ++ tail) = some (xs, tail)) ∧
      (first = false → ∀ tail, Bounded (f text ++ tail)) := by
  have hcomma : close ≠ 44 := by rcases hclose with rfl | rfl <;> decide
  induction fuel generalizing first bytes xs with
  | zero => cases h
  | succ fuel ih =>
    rcases readItems_inv h with ⟨htake, rfl⟩ | ⟨-, start, x, after, others, hstart, hx, hothers,
      rfl⟩
    · obtain ⟨text, hbytes, hsplit, hagain⟩ := hf.punct htake
      exact ⟨text, hbytes, hsplit, fun tail => readItems_close (hagain tail).1,
        fun _ tail => (hagain tail).2⟩
    · obtain ⟨text, rfl, hsplit, hread⟩ := hitem.respells hx
      obtain ⟨text', rfl, hsplit', hread', hbounded'⟩ := ih hothers
      have hagain : ∀ tail, item (f text ++ (f text' ++ tail)) =
          some (x, f text' ++ tail) := fun tail => hread _ (hbounded' rfl tail)
      cases first with
      | true =>
        cases hstart
        refine ⟨text ++ text', (append_assoc _ _ _).symm, split_append hsplit hsplit',
          fun tail => ?_, nofun⟩
        rw [hsplit, append_assoc]
        exact readItems_cons (hitem.not_close hclose (hagain tail)) rfl (hagain tail) (hread' tail)
      | false =>
        obtain ⟨comma, rfl, hsplit'', hnext⟩ := hf.punct hstart
        refine ⟨comma ++ (text ++ text'), by simp,
          split_append hsplit'' (split_append hsplit hsplit'), fun tail => ?_, fun _ tail => ?_⟩
        · rw [hsplit'', hsplit, append_assoc, append_assoc]
          exact readItems_cons (takePunct_other (hnext _).1 hcomma) (hnext _).1 (hagain tail)
            (hread' tail)
        · rw [hsplit'', append_assoc]; exact (hnext _).2

lemma readMember_iff {member : List Piece × Value} :
    readMember read bytes = some (member, rest) ↔
      ∃ after start, nextToken bytes = some (.str member.1, after) ∧
        takePunct 58 after = some start ∧ read start = some (member.2, rest) := by
  obtain ⟨key, value⟩ := member
  constructor
  · intro h
    unfold readMember at h
    split at h
    · next key' after hnext =>
      obtain ⟨start, hstart, h⟩ := Option.bind_eq_some_iff.mp h
      obtain ⟨⟨value', rest'⟩, hread, h⟩ := Option.map_eq_some_iff.mp h
      obtain ⟨hmember, rfl⟩ := Prod.mk.inj h
      cases hmember; exact ⟨after, start, hnext, hstart, hread⟩
    · cases h
  · rintro ⟨after, start, hnext, hstart, hread⟩
    rw [readMember, hnext]; simp only [hstart, Option.bind_some, hread, Option.map_some]

lemma readMember_reader (hf : Respelling f) (hread : Reader f read) :
    Reader f (readMember read) where
  length := by
    intro bytes member rest h
    obtain ⟨after, start, hnext, hstart, hvalue⟩ := readMember_iff.mp h
    have hafter := nextToken_length hnext
    have hcolon := nextToken_length (takePunct_eq_some.mp hstart)
    have hrest := hread.length hvalue
    have hafterSkip := skipSpace_length after
    have hstartSkip := skipSpace_length start; omega
  opens := by
    intro bytes member rest h c rest' hc
    obtain ⟨after, start, hnext, -⟩ := readMember_iff.mp h
    rw [hnext] at hc; cases hc
  respells := by
    intro bytes member rest h
    obtain ⟨after, start, hnext, hstart, hvalue⟩ := readMember_iff.mp h
    obtain ⟨key, rfl, hsplit, hkey⟩ := hf.token hnext
    obtain ⟨colon, rfl, hsplit', hcolon⟩ := hf.punct hstart
    obtain ⟨text, rfl, hsplit'', htext⟩ := hread.respells hvalue
    refine ⟨key ++ (colon ++ text), by simp, split_append hsplit (split_append hsplit' hsplit''),
      fun tail htail => readMember_iff.mpr
        ⟨f colon ++ (f text ++ tail), f text ++ tail, ?_, (hcolon _).1, htext tail htail⟩⟩
    rw [hsplit, hsplit', append_assoc, append_assoc]
    exact (hkey _ fun hatom => by obtain ⟨w, hw⟩ := hatom; cases hw).1

/-- What is read after an opening bracket is read from its respelled text again. -/
structure NestedReader (f : List UInt8 → List UInt8)
    (nested : UInt8 → List UInt8 → Option (Value × List UInt8)) : Prop where
  opens : ∀ {c bytes value rest}, nested c bytes = some (value, rest) → c = 91 ∨ c = 123
  length : ∀ {c bytes value rest}, nested c bytes = some (value, rest) → rest.length < bytes.length
  respells : ∀ {c bytes value rest}, nested c bytes = some (value, rest) →
    ∃ text, bytes = text ++ rest ∧ (∀ more, f (text ++ more) = f text ++ f more) ∧
      ∀ tail, nested c (f text ++ tail) = some (value, tail)

lemma readNested_items (hf : Respelling f) (hitem : Reader f item)
    (hclose : close = 93 ∨ close = 125)
    (h : readItems close item (bytes.length + 1) true bytes = some (xs, rest)) :
    rest.length < bytes.length ∧ ∃ text, bytes = text ++ rest ∧
      (∀ more, f (text ++ more) = f text ++ f more) ∧
      ∀ tail, readItems close item ((f text ++ tail).length + 1) true (f text ++ tail) =
        some (xs, tail) := by
  have hlength := readItems_length hitem h
  obtain ⟨text, hbytes, hsplit, hread, -⟩ := readItems_respelled hf hitem hclose h
  refine ⟨by omega, text, hbytes, hsplit, fun tail => readItems_fuel (hread tail) ?_⟩
  have hagain := readItems_length hitem (hread tail); omega

lemma readNested_reader (hf : Respelling f) (hread : Reader f read) :
    NestedReader f (readNested read) where
  opens := by
    intro c bytes value rest h
    unfold readNested at h
    split at h
    · exact .inl ‹_›
    · split at h
      · exact .inr ‹_›
      · cases h
  length := by
    intro c bytes value rest h
    unfold readNested at h
    split at h
    · obtain ⟨⟨xs, after⟩, hitems, h⟩ := Option.map_eq_some_iff.mp h
      obtain ⟨-, rfl⟩ := Prod.mk.inj h
      exact (readNested_items hf hread (.inl rfl) hitems).1
    · split at h
      · obtain ⟨⟨xs, after⟩, hitems, h⟩ := Option.map_eq_some_iff.mp h
        obtain ⟨-, rfl⟩ := Prod.mk.inj h
        exact (readNested_items hf (readMember_reader hf hread) (.inr rfl) hitems).1
      · cases h
  respells := by
    intro c bytes value rest h
    unfold readNested at h ⊢
    split at h
    · obtain ⟨⟨xs, after⟩, hitems, h⟩ := Option.map_eq_some_iff.mp h
      cases h
      obtain ⟨-, text, hbytes, hsplit, hagain⟩ := readNested_items hf hread (.inl rfl) hitems
      refine ⟨text, hbytes, hsplit, fun tail => ?_⟩
      rw [if_pos ‹_›, hagain]; rfl
    · split at h
      · obtain ⟨⟨xs, after⟩, hitems, h⟩ := Option.map_eq_some_iff.mp h
        cases h
        obtain ⟨-, text, hbytes, hsplit, hagain⟩ :=
          readNested_items hf (readMember_reader hf hread) (.inr rfl) hitems
        refine ⟨text, hbytes, hsplit, fun tail => ?_⟩
        rw [if_neg ‹_›, if_pos ‹_›, hagain]; rfl
      · cases h

lemma readWith_reader (hf : Respelling f)
    {nested : UInt8 → List UInt8 → Option (Value × List UInt8)} (hnested : NestedReader f nested) :
    Reader f (readWith nested) where
  length := by
    intro bytes value rest h
    unfold readWith at h
    split at h
    · next hnext => cases h; exact nextToken_length hnext
    · next hnext => cases h; exact nextToken_length hnext
    · next hnext =>
      have hlt := nextToken_length hnext
      have hrest := hnested.length h; omega
    · cases h
  opens := by
    intro bytes value rest h c rest' hc
    rw [readWith, hc] at h; exact hnested.opens h
  respells := by
    intro bytes value rest h
    unfold readWith at h
    split at h
    · next hnext =>
      cases h
      obtain ⟨text, hbytes, hsplit, hagain⟩ := hf.token hnext
      exact ⟨text, hbytes, hsplit, fun tail htail => by
        rw [readWith, (hagain tail fun _ => htail).1]⟩
    · next hnext =>
      cases h
      obtain ⟨text, hbytes, hsplit, hagain⟩ := hf.token hnext
      exact ⟨text, hbytes, hsplit, fun tail htail => by
        rw [readWith, (hagain tail fun _ => htail).1]⟩
    · next c after hnext =>
      obtain ⟨text, rfl, hsplit, hopening⟩ := hf.token hnext
      obtain ⟨text', rfl, hsplit', hagain⟩ := hnested.respells h
      refine ⟨text ++ text', (append_assoc _ _ _).symm, split_append hsplit hsplit',
        fun tail _ => ?_⟩
      have hread := (hopening (f text' ++ tail) fun hatom => by
        obtain ⟨w, hw⟩ := hatom; cases hw).1
      rw [hsplit, append_assoc, readWith, hread]; exact hagain tail
    · cases h

theorem readValue_reader (hf : Respelling f) (depth : ℕ) : Reader f (readValue depth) := by
  induction depth with
  | zero =>
    have hnone : NestedReader f fun _ _ => none := by
      constructor <;> (intro _ _ _ _ h; cases h)
    exact readWith_reader hf hnone
  | succ depth ih => exact readWith_reader hf (readNested_reader hf ih)

lemma readValue_skipSpace (depth : ℕ) (bytes : List UInt8) :
    readValue depth (skipSpace bytes) = readValue depth bytes := by
  cases depth with
  | zero => rw [readValue, readWith, readWith, nextToken_skipSpace]
  | succ depth => rw [readValue, readWith, readWith, nextToken_skipSpace]

lemma readValue_atom {text : List UInt8} (h : nextToken bytes = some (.atom text, rest))
    (depth : ℕ) : readValue depth bytes = some (.atom text, rest) := by
  cases depth with
  | zero => rw [readValue, readWith, h]
  | succ depth => rw [readValue, readWith, h]

end Values

section Quoting

variable {c : Char} {rest : List UInt8}

lemma char_of_toNat {n : ℕ} (h : c.toNat = n) : c = Char.ofNat n := by
  rw [← h, Char.ofNat_toNat]

lemma utf8_plain (hcontrol : ¬ c.toNat < 32) (hquote : c ≠ '"') (hslash : c ≠ '\\') :
    ∀ b ∈ String.utf8EncodeChar c, b ≠ 34 ∧ b ≠ 92 ∧ ¬ b < 32 := by
  have hquote' : c.toNat ≠ 34 := fun h => hquote (char_of_toNat h)
  have hslash' : c.toNat ≠ 92 := fun h => hslash (char_of_toNat h)
  have hval : c.val.toNat = c.toNat := rfl
  have hnat : ∀ n, n < 256 → 32 ≤ n → n ≠ 34 → n ≠ 92 →
      UInt8.ofNat n ≠ 34 ∧ UInt8.ofNat n ≠ 92 ∧ ¬ UInt8.ofNat n < 32 := by
    intro n hn hle h1 h2
    have htoNat : (UInt8.ofNat n).toNat = n := UInt8.toNat_ofNat_of_lt' hn
    refine ⟨fun h => h1 ?_, fun h => h2 ?_, fun h => ?_⟩
    · rw [← htoNat, h]; rfl
    · rw [← htoNat, h]; rfl
    · rw [UInt8.lt_iff_toNat_lt, htoNat] at h; exact absurd h (by simpa using hle)
  intro b hb
  unfold String.utf8EncodeChar at hb
  simp only [hval] at hb
  split at hb
  · rw [mem_singleton.mp hb]; exact hnat _ (by omega) (by omega) hquote' hslash'
  split at hb
  · simp only [mem_cons, not_mem_nil, or_false] at hb
    rcases hb with rfl | rfl <;> exact hnat _ (by omega) (by omega) (by omega) (by omega)
  split at hb
  · simp only [mem_cons, not_mem_nil, or_false] at hb
    rcases hb with rfl | rfl | rfl <;> exact hnat _ (by omega) (by omega) (by omega) (by omega)
  · simp only [mem_cons, not_mem_nil, or_false] at hb
    rcases hb with rfl | rfl | rfl | rfl <;>
      exact hnat _ (by omega) (by omega) (by omega) (by omega)

lemma readString_bytes {bytes : List UInt8} (h : ∀ b ∈ bytes, b ≠ 34 ∧ b ≠ 92 ∧ ¬ b < 32) :
    readString (bytes ++ rest) =
      (readString rest).map fun r => (bytes.map .byte ++ r.1, r.2) := by
  induction bytes with
  | nil => simp
  | cons b bytes ih =>
    rw [forall_mem_cons] at h
    obtain ⟨hquote, hslash, hcontrol⟩ := h.1
    rw [cons_append, readString_byte hquote hslash hcontrol, ih h.2, Option.map_map]
    rfl

lemma hexValue_hexDigit : ∀ n < 16, hexValue (hexDigit n) = some n := by decide

lemma readString_hex (h : c.toNat < 256) :
    readString ([92, 117, 48, 48, hexDigit (c.toNat / 16), hexDigit (c.toNat % 16)] ++ rest) =
      (readString rest).map fun r => ((String.utf8EncodeChar c).map .byte ++ r.1, r.2) := by
  have hunit :
      hexUnit 48 48 (hexDigit (c.toNat / 16)) (hexDigit (c.toNat % 16)) = some c.toNat := by
    rw [hexUnit, hexValue_hexDigit _ (by omega), hexValue_hexDigit _ (by omega)]
    exact congrArg some (show (((0 * 16 + 0) * 16 + c.toNat / 16) * 16 + c.toNat % 16) = c.toNat by
      omega)
  have hpieces : unitPieces c.toNat = (String.utf8EncodeChar c).map .byte := by
    rw [unitPieces, if_neg (by omega), Char.ofNat_toNat]
  rw [← hpieces]; exact readString_unit hunit rest

lemma readString_letter {e b : UInt8} (hescape : simpleEscape e = some b)
    (hchar : String.utf8EncodeChar c = [b]) :
    readString ([92, e] ++ rest) =
      (readString rest).map fun r => ((String.utf8EncodeChar c).map .byte ++ r.1, r.2) := by
  have hletter : e ≠ 117 := by
    rintro rfl; cases hescape
  rw [hchar, cons_append, cons_append, nil_append, readString, hescape]
  · rfl
  · exact fun _ _ _ _ _ he => absurd he hletter

lemma readString_quoteChar (c : Char) : readString (quoteChar c ++ rest) =
    (readString rest).map fun r => ((String.utf8EncodeChar c).map .byte ++ r.1, r.2) := by
  unfold quoteChar
  split
  · next h => exact readString_letter (b := 34) rfl (by rw [h]; rfl)
  split
  · next h => exact readString_letter (b := 92) rfl (by rw [h]; rfl)
  split
  · next h => exact readString_letter (b := 8) rfl (by rw [char_of_toNat h]; rfl)
  split
  · next h => exact readString_letter (b := 12) rfl (by rw [char_of_toNat h]; rfl)
  split
  · next h => exact readString_letter (b := 10) rfl (by rw [h]; rfl)
  split
  · next h => exact readString_letter (b := 13) rfl (by rw [h]; rfl)
  split
  · next h => exact readString_letter (b := 9) rfl (by rw [h]; rfl)
  split
  · next h =>
    refine readString_hex ?_
    simp only [Bool.or_eq_true, decide_eq_true_eq, or_assoc] at h
    rcases h with h | rfl | rfl | rfl
    · omega
    all_goals decide
  · next hquote hslash _ _ _ _ _ hcontrol =>
    split
    · next h =>
      rw [char_of_toNat h]
      exact readString_unit (show hexUnit 50 48 50 56 = some 0x2028 by decide) rest
    split
    · next h =>
      rw [char_of_toNat h]
      exact readString_unit (show hexUnit 50 48 50 57 = some 0x2029 by decide) rest
    · simp only [Bool.or_eq_true, decide_eq_true_eq, not_or] at hcontrol
      exact readString_bytes (utf8_plain hcontrol.1.1.1 hquote hslash)

theorem readString_quote (cs : List Char) :
    readString (cs.flatMap quoteChar ++ 34 :: rest) =
      some ((cs.flatMap String.utf8EncodeChar).map .byte, rest) := by
  induction cs with
  | nil => simp [readString]
  | cons c cs ih =>
    rw [flatMap_cons, append_assoc, readString_quoteChar, ih]; simp

lemma nextToken_quote (s : String) (rest : List UInt8) :
    nextToken (quote s ++ rest) = some (.str (piecesOf s), rest) := by
  rw [quote, append_assoc]; exact nextToken_string (readString_quote s.toList)

lemma joinPieces_bytes (bytes : List UInt8) : joinPieces (bytes.map .byte) = bytes := by
  induction bytes with
  | nil => rfl
  | cons b bytes ih => rw [map_cons, joinPieces, ih]

lemma decodeUtf8_encode (cs : List Char) {fuel : ℕ} (h : cs.length ≤ fuel) :
    decodeUtf8 fuel (cs.flatMap String.utf8EncodeChar) = cs := by
  induction cs generalizing fuel with
  | nil => cases fuel <;> rfl
  | cons c cs ih =>
    obtain ⟨fuel, rfl⟩ : ∃ n, fuel = n + 1 := ⟨fuel - 1, by simp at h; omega⟩
    have hdrop : (String.utf8EncodeChar c ++ cs.flatMap String.utf8EncodeChar).drop c.utf8Size =
        cs.flatMap String.utf8EncodeChar :=
      drop_left' (String.length_utf8EncodeChar c)
    have hchar : ByteArray.utf8DecodeChar?
        (String.utf8EncodeChar c ++ cs.flatMap String.utf8EncodeChar).toByteArray 0 = some c := by
      rw [toByteArray_append]; exact ByteArray.utf8DecodeChar?_utf8EncodeChar_append
    rw [flatMap_cons]
    obtain ⟨b, bytes, hbytes⟩ := exists_cons_of_ne_nil (String.utf8EncodeChar_ne_nil (c := c))
    rw [hbytes, cons_append] at hdrop hchar ⊢
    rw [decodeUtf8, hchar]
    simp only [hdrop]
    rw [ih (by simpa using h)]

lemma textOf_piecesOf (s : String) : textOf (piecesOf s) = s := by
  have hlength : s.toList.length ≤ (s.toList.flatMap String.utf8EncodeChar).length := by
    induction s.toList with
    | nil => simp
    | cons c cs ih =>
      have hpos := length_pos_iff.mpr (String.utf8EncodeChar_ne_nil (c := c))
      rw [flatMap_cons, length_append, length_cons]; omega
  rw [textOf, piecesOf, joinPieces_bytes, decodeUtf8_encode _ hlength, String.ofList_toList]

end Quoting

end JsonText
