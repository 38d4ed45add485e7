import NemoClaw.Inference.GuardCommand
import NemoClaw.Js.Object
import NemoClaw.Lib.JsonText

/- The chat requests that the request guard of the llama.cpp image forwards.

A request is one JSON object. The guard reads its fields one by one and keeps each value as
the bytes that it has in the request. A request that limits its output goes on as it came;
into any other one the guard writes its own limit.

Correspondence (request-guard/main.go ↔ Lean): functions keep the source's names.
`decodeFields` and `checkLimits` are the loops of `decodeTopLevelObject` and
`guardChatBody`. A map is the list of its fields. Of a `json.Decoder`, which is its unread
bytes, the model has what an object needs: `more`, `keyToken` (`Token` for a key, after a
comma if it is not the first) and `decodeRaw` (`Decode` after a colon). Values may be
nested as deep as `encoding/json` reads them.

What is proved: `guardChatBody_bounded` — which requests are accepted, and that what is
forwarded for them is limited and otherwise unchanged.
-/
namespace NemoClaw.RequestGuard

open JsonText List Option

structure GuardError where
  status : ℕ
  code : String
  message : String

def badRequest (code message : String) : GuardError := ⟨400, code, message⟩

def notOneObject : GuardError :=
  badRequest "invalid_json" "Chat Completions request must be one JSON object."

/-- How deep `encoding/json` reads nested values. -/
def maxNestingDepth : ℕ := 10000

/-- `decoder.More()`. -/
def more (rest : Bytes) : Bool :=
  match skipSpace rest with
  | [] => false
  | c :: _ => c ≠ 93 && c ≠ 125

/-- The key that `decoder.Token()` reads. -/
def keyToken (first : Bool) (rest : Bytes) : Option (String × Bytes) :=
  (itemStart first rest).bind fun start =>
    match nextToken start with
    | some (.str pieces, rest) => some (textOf pieces, rest)
    | _ => none

/-- `decoder.Decode(&value)` for a `json.RawMessage`. -/
def decodeRaw (rest : Bytes) : Option (Bytes × Bytes) :=
  (takePunct 58 rest).bind fun start =>
    (readValue maxNestingDepth start).map fun r =>
      (skipSpace (start.take (start.length - r.2.length)), r.2)

def decodeFields : ℕ → Bool → List (String × Bytes) → Bytes →
    Except GuardError (List (String × Bytes) × Bytes)
  | 0, _, _, _ => .error notOneObject
  | fuel + 1, first, fields, rest =>
    if more rest then
      match keyToken first rest with
      | none => .error notOneObject
      | some (key, rest) =>
        if (fields.lookup key).isSome then
          .error (badRequest "duplicate_json_field"
            "Chat Completions request contains a duplicate field.")
        else
          match decodeRaw rest with
          | none => .error notOneObject
          | some (value, rest) => decodeFields fuel false (fields ++ [(key, value)]) rest
    else .ok (fields, rest)

def decodeTopLevelObject (body : Bytes) : Except GuardError (List (String × Bytes)) :=
  match takePunct 123 body with
  | none => .error notOneObject
  | some rest => do
    let (fields, rest) ← decodeFields (rest.length + 1) true [] rest
    match takePunct 125 rest with
    | none => .error notOneObject
    | some rest =>
      if skipSpace rest = [] then .ok fields
      else .error (badRequest "invalid_json"
        "Chat Completions request must contain one JSON value.")

def natOf (digits : Bytes) : Option ℕ :=
  if digits ≠ [] ∧ digits.all isDigit then
    some (digits.foldl (fun n c => 10 * n + (c.toNat - 48)) 0)
  else none

/-- The integer that decimal digits with a sign stand for. -/
def intOf : Bytes → Option ℤ
  | 43 :: digits => (natOf digits).map fun n => (n : ℤ)
  | 45 :: digits => (natOf digits).map fun n => -(n : ℤ)
  | digits => (natOf digits).map fun n => (n : ℤ)

/-- `strconv.ParseInt(text, 10, 64)`. -/
def parseInt (text : Bytes) : Option ℤ :=
  (intOf text).filter fun n => -2 ^ 63 ≤ n ∧ n < 2 ^ 63

def parsePositiveInteger (raw : Bytes) : Option ℤ :=
  match readValue maxNestingDepth raw with
  | some (.atom text, _) =>
    if isNumber text then (parseInt text).filter fun n => 0 < n else none
  | _ => none

def limitFields : List String := ["max_tokens", "max_completion_tokens", "n_predict"]

def checkLimits (fields : List (String × Bytes)) (maximum : ℤ) (boundedFieldPresent : Bool) :
    List String → Except GuardError Bool
  | [] => .ok boundedFieldPresent
  | name :: names =>
    match fields.lookup name with
    | none => checkLimits fields maximum boundedFieldPresent names
    | some raw =>
      match parsePositiveInteger raw with
      | none => .error (badRequest "output_token_limit_invalid"
          "Output token limit must be a positive integer.")
      | some value =>
        if value > maximum then
          .error (badRequest "output_token_limit_exceeded"
            "Output token limit exceeds the declared limit.")
        else checkLimits fields maximum true names

def marshalFields : Bool → List (String × Bytes) → Bytes
  | _, [] => [125]
  | first, field :: fields =>
    (if first then [] else [44]) ++ quote field.1 ++ 58 :: compact field.2 ++
      marshalFields false fields

/-- `json.Marshal`: the keys are sorted, and a raw message that is no value is refused. -/
def marshal (fields : List (String × Bytes)) : Option Bytes :=
  if fields.all fun field => (readText maxNestingDepth field.2).isSome then
    some (123 :: marshalFields true (fields.insertionSort fun a b => a.1 ≤ b.1))
  else none

/-- `fields[key] = value`. -/
def setField (fields : List (String × Bytes)) (key : String) (value : Bytes) :
    List (String × Bytes) :=
  fields.filter (fun field => field.1 ≠ key) ++ [(key, value)]

def guardChatBody (body : Bytes) (maximum : ℤ) : Except GuardError Bytes := do
  let fields ← decodeTopLevelObject body
  if ← checkLimits fields maximum false limitFields then .ok body
  else
    match marshal (setField fields "max_tokens" (formatInt maximum)) with
    | some guarded => .ok guarded
    | none => .error (badRequest "invalid_json"
        "Chat Completions request could not be normalized.")

example : guardChatBody (lit "\x7b\"model\": \"a\"\x7d") 8 =
    .ok (lit "\x7b\"max_tokens\":8,\"model\":\"a\"\x7d") := by rfl

section Digits

lemma formatInt_nat (n : ℕ) :
    formatInt n = (Nat.toDigits 10 n).flatMap String.utf8EncodeChar := by
  have hstring : toString (n : ℤ) = String.ofList (Nat.toDigits 10 n) :=
    Nat.toString_eq_ofList_toDigits
  rw [formatInt, lit, hstring, String.toByteArray_ofList, List.utf8Encode]; simp

lemma utf8_digitChar :
    ∀ d < 10, String.utf8EncodeChar (Nat.digitChar d) = [UInt8.ofNat (48 + d)] := by
  decide

lemma formatInt_step (n : ℕ) : formatInt n =
    (if n < 10 then [] else formatInt (n / 10 : ℕ)) ++ [UInt8.ofNat (48 + n % 10)] := by
  rw [formatInt_nat, Nat.toDigits_eq_if (by omega)]
  split
  · next hn =>
    rw [flatMap_singleton, utf8_digitChar _ hn, Nat.mod_eq_of_lt hn]; rfl
  · rw [flatMap_append, flatMap_singleton, utf8_digitChar _ (Nat.mod_lt _ (by omega)),
      formatInt_nat]

lemma isDigit_digit : ∀ d < 10, isDigit (UInt8.ofNat (48 + d)) ∧
    (UInt8.ofNat (48 + d)).toNat - 48 = d ∧ (UInt8.ofNat (48 + d) = 48 ↔ d = 0) := by
  decide

lemma natOf_formatInt (n : ℕ) : natOf (formatInt n) = some n := by
  have hall : formatInt n ≠ [] ∧ (formatInt n).all isDigit ∧
      (formatInt n).foldl (fun m c => 10 * m + (c.toNat - 48)) 0 = n := by
    induction n using Nat.strongRecOn with
    | _ n ih =>
      obtain ⟨hdigit, hvalue, -⟩ := isDigit_digit (n % 10) (Nat.mod_lt _ (by omega))
      rw [formatInt_step]
      split
      · next hn =>
        rw [nil_append]
        exact ⟨cons_ne_nil _ _, by rw [all_cons, hdigit]; rfl,
          by rw [foldl_cons, foldl_nil, hvalue]; omega⟩
      · obtain ⟨-, hdigits, hsum⟩ := ih (n / 10) (by omega)
        refine ⟨by simp, by rw [all_append, hdigits, all_cons, hdigit]; rfl, ?_⟩
        rw [foldl_append, hsum, foldl_cons, foldl_nil, hvalue]; omega
  rw [natOf, if_pos ⟨hall.1, hall.2.1⟩, hall.2.2]

lemma digits_formatInt (n : ℕ) : ∀ c ∈ formatInt n, isDigit c := by
  have hnat := natOf_formatInt n
  unfold natOf at hnat
  split at hnat
  · next hdigits => exact all_eq_true.mp hdigits.2
  · cases hnat

lemma head_formatInt {n : ℕ} (hn : 0 < n) : ∃ c rest, formatInt n = c :: rest ∧ c ≠ 48 := by
  induction n using Nat.strongRecOn with
  | _ n ih =>
    rw [formatInt_step]
    split
    · next hlt =>
      obtain ⟨-, -, hzero⟩ := isDigit_digit (n % 10) (Nat.mod_lt _ (by omega))
      exact ⟨_, [], rfl, fun h => by have := hzero.mp h; omega⟩
    · obtain ⟨c, rest, heq, hne⟩ := ih (n / 10) (by omega) (by omega)
      exact ⟨c, rest ++ [UInt8.ofNat (48 + n % 10)], by rw [heq]; rfl, hne⟩

lemma isNumber_formatInt {n : ℕ} (hn : 0 < n) : isNumber (formatInt n) := by
  obtain ⟨c, rest, heq, hne⟩ := head_formatInt hn
  have hdigits := digits_formatInt n
  have hself : (formatInt n).takeWhile isDigit = formatInt n :=
    takeWhile_eq_self_iff.mpr hdigits
  have hnone : (formatInt n).dropWhile isDigit = [] := dropWhile_eq_nil_iff.mpr hdigits
  have hunsigned : isUnsigned (formatInt n) := by
    unfold isUnsigned
    rw [hself, hnone, heq]; simp [hne, isFraction, isExponent]
  have hsign : c ≠ 45 := by
    rintro rfl
    rw [heq, forall_mem_cons] at hdigits; exact absurd hdigits.1 (by decide)
  rw [heq] at hunsigned ⊢
  rw [isNumber]
  · exact hunsigned
  · exact fun _ h => hsign (cons.inj h).1

lemma intOf_formatInt {n : ℕ} (hn : 0 < n) : intOf (formatInt n) = some (n : ℤ) := by
  obtain ⟨c, rest, heq, -⟩ := head_formatInt hn
  have hnat := natOf_formatInt n
  have hdigits := digits_formatInt n
  rw [heq] at hnat hdigits ⊢
  rw [forall_mem_cons] at hdigits
  rw [intOf, hnat]
  · rfl
  · rintro digits ⟨⟩; exact absurd hdigits.1 (by decide)
  · rintro digits ⟨⟩; exact absurd hdigits.1 (by decide)

end Digits

/-! ## What a text says -/

/-- The members of an object up to its end. -/
abbrev readMembers : ℕ → Bool → Bytes → Option (List (List Piece × Value) × Bytes) :=
  readItems 125 (readMember (readValue maxNestingDepth))

def textMembers (members : List (List Piece × Value)) : List (String × Value) :=
  members.map fun member => (textOf member.1, member.2)

def readObject (text : Bytes) : Option (List (String × Value)) :=
  match readText (maxNestingDepth + 1) text with
  | some (.obj members) => some (textMembers members)
  | _ => none

def integerOf : Value → Option ℤ
  | .atom text => if isNumber text then intOf text else none
  | _ => none

/-- No field comes twice, and each limit that there is allows no more than the maximum. -/
structure Limited (maximum : ℤ) (fields : List (String × Value)) : Prop where
  distinct : (fields.map (·.1)).Nodup
  within : ∀ name ∈ limitFields, ∀ value, fields.lookup name = some value →
    ∃ n, integerOf value = some n ∧ 1 ≤ n ∧ n ≤ maximum

structure Stands (raw : Bytes) (value : Value) : Prop where
  read : readValue maxNestingDepth raw = some (value, [])
  compacted : ∀ tail, Bounded tail →
    readValue maxNestingDepth (compact raw ++ tail) = some (value, tail)

section Reading

variable {body raw rest after : Bytes} {value : Value} {fuel : ℕ} {first : Bool}
  {fields : List (String × Bytes)} {values : List (String × Value)}

lemma Stands.readText (h : Stands raw value) : readText maxNestingDepth raw = some value := by
  rw [JsonText.readText, h.read]; exact if_pos rfl

lemma readObject_eq_some : readObject body = some values ↔ ∃ rest after members,
    takePunct 123 body = some rest ∧
    readMembers (rest.length + 1) true rest = some (members, after) ∧
    skipSpace after = [] ∧ values = textMembers members := by
  constructor
  · intro h
    unfold readObject at h
    split at h
    · next members htext =>
      cases h
      unfold readText at htext
      split at htext
      · next value after hvalue =>
        split at htext
        · next hend =>
          cases htext
          rw [readValue, readWith] at hvalue
          split at hvalue
          · cases hvalue
          · cases hvalue
          · next c rest hnext =>
            unfold readNested at hvalue
            split at hvalue
            · obtain ⟨_, -, hvalue⟩ := map_eq_some_iff.mp hvalue
              cases hvalue
            split at hvalue
            · next hc =>
              obtain ⟨⟨members', after'⟩, hitems, hvalue⟩ := map_eq_some_iff.mp hvalue
              obtain ⟨hmembers, rfl⟩ := Prod.mk.inj hvalue
              cases hmembers
              exact ⟨rest, after', members', takePunct_eq_some.mpr (hc ▸ hnext), hitems, hend,
                rfl⟩
            · cases hvalue
          · cases hvalue
        · cases htext
      · cases htext
    · cases h
  · rintro ⟨rest, after, members, hopen, hitems, hend, rfl⟩
    have hvalue : readValue (maxNestingDepth + 1) body = some (.obj members, after) := by
      rw [readValue, readWith, takePunct_eq_some.mp hopen]
      simp only
      rw [readNested, if_neg (by decide), if_pos rfl]
      exact congrArg (Option.map fun r => (Value.obj r.1, r.2)) hitems
    rw [readObject, readText, hvalue]; simp only [hend, if_true]

lemma more_eq_false (h : takePunct 125 rest = some after) : more rest = false := by
  rcases nextToken_cases (takePunct_eq_some.mp h) with ⟨c, hc, -, hskip⟩ | ⟨_, _, hc, -⟩ |
    ⟨_, hc, -⟩
  · cases hc
    rw [more, hskip]; rfl
  · cases hc
  · cases hc

lemma decodeRaw_eq_some (h : decodeRaw rest = some (raw, after)) : ∃ start value,
    takePunct 58 rest = some start ∧ readValue maxNestingDepth start = some (value, after) ∧
    Stands raw value := by
  obtain ⟨start, hcolon, h⟩ := bind_eq_some_iff.mp h
  obtain ⟨⟨value, after'⟩, hread, h⟩ := map_eq_some_iff.mp h
  cases h
  obtain ⟨text, rfl, -, hsame⟩ := (readValue_reader id_respelling maxNestingDepth).respells hread
  obtain ⟨text', htext, -, hcompact⟩ :=
    (readValue_reader compact_respelling maxNestingDepth).respells hread
  obtain rfl := append_cancel_right htext
  have htake : (text ++ after').take ((text ++ after').length - after'.length) = text := by
    rw [length_append, Nat.add_sub_cancel, take_left]
  refine ⟨_, value, hcolon, hread, ?_, ?_⟩
  · have hnil := hsame [] nofun
    rw [append_nil] at hnil
    rw [htake, readValue_skipSpace]; exact hnil
  · rw [htake, compact_skipSpace]; exact hcompact

/-- What was decoded of an object, and what the object says. -/
def Decoded (field : String × Bytes) (member : String × Value) : Prop :=
  field.1 = member.1 ∧ Stands field.2 member.2

section

variable (h : Forall₂ Decoded fields values)
include h

lemma forall₂_names : fields.map (·.1) = values.map (·.1) := by
  induction h with
  | nil => rfl
  | cons hfield _ ih => rw [map_cons, map_cons, ih, hfield.1]

lemma forall₂_stands : ∀ field ∈ fields, ∃ value, Stands field.2 value := by
  induction h with
  | nil => exact nofun
  | cons hfield _ ih => exact forall_mem_cons.mpr ⟨⟨_, hfield.2⟩, ih⟩

lemma forall₂_lookup (name : String) :
    fields.lookup name = none ∧ values.lookup name = none ∨
    ∃ raw value, fields.lookup name = some raw ∧ values.lookup name = some value ∧
      Stands raw value := by
  induction h with
  | nil => exact .inl ⟨rfl, rfl⟩
  | @cons field member fields values hfield _ ih =>
    obtain ⟨key, raw⟩ := field
    obtain ⟨key', value⟩ := member
    obtain ⟨rfl, hstands⟩ := hfield
    rw [Js.lookup_cons_if, Js.lookup_cons_if]
    by_cases hname : name = key
    · rw [if_pos hname, if_pos hname]; exact .inr ⟨raw, value, rfl, rfl, hstands⟩
    · rw [if_neg hname, if_neg hname]; exact ih

end

lemma keyToken_eq_some {key : String} (h : keyToken first rest = some (key, after)) :
    ∃ start pieces, itemStart first rest = some start ∧
      nextToken start = some (.str pieces, after) ∧ key = textOf pieces := by
  obtain ⟨start, hstart, h⟩ := bind_eq_some_iff.mp h
  split at h
  · next pieces after' hnext =>
    cases h; exact ⟨start, pieces, hstart, hnext, rfl⟩
  · cases h

lemma takePunct_more (h : more rest) : takePunct 125 rest = none := by
  cases hclose : takePunct 125 rest with
  | none => rfl
  | some after => rw [more_eq_false hclose] at h; cases h

lemma more_of_head {c : UInt8} (h : (skipSpace rest).head? = some c) (hne : c ≠ 93 ∧ c ≠ 125) :
    more rest := by
  unfold more
  split
  · next hnil =>
    rw [hnil] at h; cases h
  · next b bytes hcons =>
    rw [hcons] at h
    cases h; simp [hne]

lemma more_of_item {start : Bytes} {pieces : List Piece}
    (hstart : itemStart first rest = some start)
    (hkey : nextToken start = some (.str pieces, after)) : more rest := by
  cases first with
  | true =>
    cases hstart
    rcases nextToken_cases hkey with ⟨_, hc, -⟩ | ⟨_, text, -, hskip, -⟩ | ⟨_, hc, -⟩
    · cases hc
    · exact more_of_head (by rw [hskip]; rfl) (by decide)
    · cases hc
  | false =>
    rcases nextToken_cases (takePunct_eq_some.mp hstart) with ⟨_, hc, -, hskip⟩ | ⟨_, _, hc, -⟩ |
      ⟨_, hc, -⟩
    · cases hc; exact more_of_head (by rw [hskip]; rfl) (by decide)
    · cases hc
    · cases hc

lemma decodeFields_eq_ok {all : List (String × Bytes)}
    (h : decodeFields fuel first fields rest = .ok (all, body))
    (hclose : takePunct 125 body = some after) (hnodup : (fields.map (·.1)).Nodup) :
    ∃ new members, all = fields ++ new ∧ (all.map (·.1)).Nodup ∧
      readMembers fuel first rest = some (members, after) ∧
      Forall₂ Decoded new (textMembers members) := by
  induction fuel generalizing first fields rest with
  | zero => cases h
  | succ fuel ih =>
    unfold decodeFields at h
    split at h
    · next hmore =>
      split at h
      · cases h
      next key afterKey hkey =>
      split at h
      · cases h
      next hfresh =>
      split at h
      · cases h
      next raw afterRaw hraw =>
      obtain ⟨start, pieces, hstart, hnext, rfl⟩ := keyToken_eq_some hkey
      obtain ⟨start', value, hcolon, hread, hstands⟩ := decodeRaw_eq_some hraw
      have hnew : textOf pieces ∉ fields.map (·.1) := by
        intro hmem
        obtain ⟨old, hold⟩ := Js.lookup_of_mem_keys hmem
        exact hfresh (by rw [hold]; rfl)
      have hnodup' : ((fields ++ [(textOf pieces, raw)]).map (·.1)).Nodup := by
        rw [map_append]
        exact hnodup.append (nodup_singleton _)
          (disjoint_singleton.mpr hnew)
      obtain ⟨new, members, rfl, hall, hitems, hdecoded⟩ := ih h hnodup'
      have hmember : readMember (readValue maxNestingDepth) start =
          some ((pieces, value), afterRaw) :=
        readMember_iff.mpr ⟨afterKey, start', hnext, hcolon, hread⟩
      exact ⟨(textOf pieces, raw) :: new, (pieces, value) :: members, by simp, hall,
        readItems_cons (takePunct_more hmore) hstart hmember hitems,
        .cons ⟨rfl, hstands⟩ hdecoded⟩
    · cases h
      exact ⟨[], [], (append_nil _).symm, hnodup, readItems_close hclose, .nil⟩

lemma decodeFields_ok (fields : List (String × Bytes)) {members : List (List Piece × Value)}
    (h : readMembers fuel first rest = some (members, after))
    (hnodup : (fields.map (·.1) ++ (textMembers members).map (·.1)).Nodup) :
    ∃ all body, decodeFields fuel first fields rest = .ok (all, body) ∧
      takePunct 125 body = some after := by
  induction fuel generalizing first fields rest members with
  | zero => cases h
  | succ fuel ih =>
    rcases readItems_inv h with ⟨hclose, rfl⟩ | ⟨-, start, member, afterMember, others, hstart,
      hmember, hothers, rfl⟩
    · refine ⟨fields, rest, ?_, hclose⟩
      rw [decodeFields, more_eq_false hclose]; rfl
    · obtain ⟨afterKey, start', hkey, hcolon, hread⟩ := readMember_iff.mp hmember
      have htoken : keyToken first rest = some (textOf member.1, afterKey) := by
        rw [keyToken, hstart, bind_some, hkey]
      have hnew : fields.lookup (textOf member.1) = none := by
        cases hlookup : fields.lookup (textOf member.1) with
        | none => rfl
        | some old =>
          exact absurd rfl (nodup_append.mp hnodup |>.2.2 _
            (mem_map_of_mem (Js.mem_of_lookup hlookup)) _ mem_cons_self)
      obtain ⟨raw, hraw⟩ : ∃ raw, decodeRaw afterKey = some (raw, afterMember) := by
        rw [decodeRaw, hcolon, bind_some, hread]; exact ⟨_, rfl⟩
      have hnodup' : ((fields ++ [(textOf member.1, raw)]).map (·.1) ++
          (textMembers others).map (·.1)).Nodup := by
        rwa [map_append, append_assoc]
      obtain ⟨all, body, hall, hbody⟩ := ih _ hothers hnodup'
      refine ⟨all, body, ?_, hbody⟩
      rw [decodeFields, more_of_item hstart hkey, if_pos rfl, htoken]
      simp only [hnew, hraw]; exact hall

lemma decodeTopLevelObject_ok (h : decodeTopLevelObject body = .ok fields) :
    ∃ values, readObject body = some values ∧ (values.map (·.1)).Nodup ∧
      Forall₂ Decoded fields values := by
  unfold decodeTopLevelObject at h
  split at h
  · cases h
  next rest hopen =>
  cases hfields : decodeFields (rest.length + 1) true [] rest with
  | error e => rw [hfields] at h; cases h
  | ok r =>
    rw [hfields] at h
    change (match takePunct 125 r.2 with
      | none => _
      | some rest => _) = _ at h
    split at h
    · cases h
    next after hclose =>
    split at h
    · next hend =>
      cases h
      obtain ⟨new, members, hnew, hnodup, hitems, hdecoded⟩ :=
        decodeFields_eq_ok hfields hclose nodup_nil
      rw [nil_append] at hnew
      rw [hnew] at hnodup ⊢
      rw [forall₂_names hdecoded] at hnodup
      exact ⟨textMembers members,
        readObject_eq_some.mpr ⟨rest, after, members, hopen, hitems, hend, rfl⟩, hnodup,
        hdecoded⟩
    · cases h

lemma decodeTopLevelObject_isOk (h : readObject body = some values)
    (hnodup : (values.map (·.1)).Nodup) : ∃ fields, decodeTopLevelObject body = .ok fields := by
  obtain ⟨rest, after, members, hopen, hitems, hend, rfl⟩ := readObject_eq_some.mp h
  obtain ⟨all, body', hall, hclose⟩ := decodeFields_ok [] hitems hnodup
  refine ⟨all, ?_⟩
  rw [decodeTopLevelObject, hopen]
  simp only [hall]
  change (match takePunct 125 body' with
    | none => _
    | some rest => _) = _
  rw [hclose]; exact if_pos hend

lemma parsePositiveInteger_eq_some (h : Stands raw value) {n : ℤ} :
    parsePositiveInteger raw = some n ↔ integerOf value = some n ∧ 1 ≤ n ∧ n < 2 ^ 63 := by
  rw [parsePositiveInteger, h.read]
  unfold integerOf
  cases value with
  | atom text =>
    by_cases hnumber : isNumber text
    · simp only [hnumber, if_true, parseInt, Option.filter_filter, Option.filter_eq_some_iff]
      refine and_congr_right fun _ => ?_
      simp; omega
    · simp [hnumber]
  | str => simp
  | arr => simp
  | obj => simp

lemma checkLimits_eq_ok {maximum : ℤ} {present found : Bool} {names : List String} :
    checkLimits fields maximum present names = .ok found ↔
      (∀ name ∈ names, ∀ raw, fields.lookup name = some raw →
        ∃ n, parsePositiveInteger raw = some n ∧ n ≤ maximum) ∧
      found = (present || names.any fun name => (fields.lookup name).isSome) := by
  induction names generalizing present with
  | nil => simp [checkLimits, eq_comm]
  | cons name names ih =>
    rw [forall_mem_cons, checkLimits]
    split
    · next hnone => simp [ih, hnone]
    next raw hraw =>
    split
    · next hvalue => simp [hraw, hvalue]
    next n hvalue =>
    split
    · next hgt => simp [hraw, hvalue, hgt]
    · next hle => simp [ih, hraw, hvalue, not_lt.mp hle]

lemma checkLimits_limited {maximum : ℤ} (hmax : maximum < 2 ^ 63) {found : Bool}
    (h : Forall₂ Decoded fields values) :
    checkLimits fields maximum false limitFields = .ok found ↔
      (∀ name ∈ limitFields, ∀ value, values.lookup name = some value →
        ∃ n, integerOf value = some n ∧ 1 ≤ n ∧ n ≤ maximum) ∧
      found = limitFields.any fun name => (values.lookup name).isSome := by
  rw [checkLimits_eq_ok, Bool.false_or]
  refine and_congr (forall₂_congr fun name _ => ?_) (Eq.congr_right ?_)
  · rcases forall₂_lookup h name with ⟨hfield, hvalue⟩ | ⟨raw, value, hfield, hvalue, hstands⟩
    · simp [hfield, hvalue]
    · simp only [hfield, hvalue, Option.some.injEq, forall_eq',
        parsePositiveInteger_eq_some hstands, and_assoc]
      refine exists_congr fun n => and_congr_right fun _ => and_congr_right fun _ => ?_
      exact and_iff_right_of_imp fun hle => by omega
  · refine congrArg (List.any limitFields) (funext fun name => ?_)
    rcases forall₂_lookup h name with ⟨hfield, hvalue⟩ | ⟨raw, value, hfield, hvalue, -⟩
    · rw [hfield, hvalue]; rfl
    · rw [hfield, hvalue]; rfl

end Reading

section Marshalling

variable {raw : Bytes} {fields : List (String × Bytes)} {values : List (String × Value)}
  {maximum : ℤ}

lemma bounded_marshalFields (fields : List (String × Bytes)) :
    Bounded (marshalFields false fields) := by
  cases fields <;> exact bounded_cons (by decide) _

lemma readItems_marshalFields (h : Forall₂ Decoded fields values) (first : Bool) :
    ∃ members, textMembers members = values ∧
      readMembers (fields.length + 1) first (marshalFields first fields) = some (members, []) := by
  induction h generalizing first with
  | nil => exact ⟨[], rfl, readItems_close (takePunct_cons (by decide) _)⟩
  | @cons field member fields values hfield _ ih =>
    obtain ⟨key, raw⟩ := field
    obtain ⟨key', value⟩ := member
    obtain ⟨rfl, hstands⟩ := hfield
    obtain ⟨members, rfl, hread⟩ := ih false
    have hvalue := hstands.compacted _ (bounded_marshalFields fields)
    have hkey := nextToken_quote key (58 :: (compact raw ++ marshalFields false fields))
    have hmember : readMember (readValue maxNestingDepth)
        (quote key ++ 58 :: (compact raw ++ marshalFields false fields)) =
          some ((piecesOf key, value), marshalFields false fields) :=
      readMember_iff.mpr ⟨_, _, hkey, takePunct_cons (by decide) _, hvalue⟩
    refine ⟨(piecesOf key, value) :: members, ?_, ?_⟩
    · rw [textMembers, map_cons, textOf_piecesOf]; rfl
    cases first with
    | true =>
      refine readItems_cons ?_ rfl (by simpa [marshalFields] using hmember) hread
      simp [marshalFields, takePunct, hkey]
    | false =>
      have hcomma : takePunct 44 (marshalFields false ((key, raw) :: fields)) =
          some (quote key ++ 58 :: (compact raw ++ marshalFields false fields)) := by
        simp [marshalFields, takePunct_cons (show isPunct 44 by decide)]
      exact readItems_cons (takePunct_other hcomma (by decide)) hcomma hmember hread

lemma readObject_marshalFields (h : Forall₂ Decoded fields values) :
    readObject (123 :: marshalFields true fields) = some values := by
  obtain ⟨members, rfl, hread⟩ := readItems_marshalFields h true
  have hlength := readItems_length
    (readMember_reader id_respelling (readValue_reader id_respelling maxNestingDepth)) hread
  exact readObject_eq_some.mpr ⟨_, [], members, takePunct_cons (by decide) _,
    readItems_fuel hread (by omega), rfl, rfl⟩

lemma lookup_perm {values' : List (String × Value)} (h : values.Perm values')
    (hnodup : (values.map (·.1)).Nodup) (name : String) :
    values.lookup name = values'.lookup name := by
  cases hlookup : values.lookup name with
  | some value =>
    exact (Js.lookup_of_mem ((h.map _).nodup hnodup) (h.mem_iff.mp (Js.mem_of_lookup hlookup))).symm
  | none =>
  cases hlookup' : values'.lookup name with
  | none => rfl
  | some value =>
    rw [Js.lookup_of_mem hnodup (h.mem_iff.mpr (Js.mem_of_lookup hlookup'))] at hlookup
    cases hlookup

lemma marshal_read (h : Forall₂ Decoded fields values) (hnodup : (values.map (·.1)).Nodup) :
    ∃ text values', marshal fields = some text ∧ readObject text = some values' ∧
      (values'.map (·.1)).Nodup ∧ ∀ name, values'.lookup name = values.lookup name := by
  have hall : (fields.all fun field => (readText maxNestingDepth field.2).isSome) := by
    refine all_eq_true.mpr fun field hfield => ?_
    obtain ⟨value, hstands⟩ := forall₂_stands h field hfield
    rw [hstands.readText]; rfl
  have hsorted := perm_insertionSort (fun a b : String × Bytes => a.1 ≤ b.1) fields
  obtain ⟨values', hdecoded, hperm⟩ := perm_comp_forall₂ hsorted h
  have hnodup' := (hperm.map (·.1)).nodup_iff.mpr hnodup
  refine ⟨_, values', if_pos hall, readObject_marshalFields hdecoded, hnodup', ?_⟩
  exact lookup_perm hperm hnodup'

/-- The limit that is written stands for itself. -/
lemma stands_formatInt (hpos : 1 ≤ maximum) :
    Stands (formatInt maximum) (.atom (formatInt maximum)) ∧
      integerOf (.atom (formatInt maximum)) = some maximum := by
  obtain ⟨n, rfl⟩ := Int.eq_ofNat_of_zero_le (show 0 ≤ maximum by omega)
  have hn : 0 < n := by omega
  have hnumber := isNumber_formatInt hn
  have hbytes : ∀ c ∈ formatInt n, isAtomByte c := by
    intro c hc; simp [isAtomByte, digits_formatInt n c hc]
  have hcompact : compact (formatInt n) = formatInt n := by
    have hnil := compact_atom hbytes []
    rwa [append_nil, show compact [] = [] from rfl, append_nil] at hnil
  have hread : ∀ tail, Bounded tail →
      readValue maxNestingDepth (formatInt n ++ tail) = some (.atom (formatInt n), tail) :=
    fun tail htail => readValue_atom (nextToken_atom (by simp [isAtom, hnumber]) hbytes htail) _
  refine ⟨⟨?_, fun tail htail => by rw [hcompact]; exact hread tail htail⟩, ?_⟩
  · have hnil := hread [] nofun
    rwa [append_nil] at hnil
  · rw [integerOf, if_pos hnumber, intOf_formatInt hn]

lemma marshal_limit (h : Forall₂ Decoded fields values) (hnodup : (values.map (·.1)).Nodup)
    (hpos : 1 ≤ maximum) (hnone : ∀ name ∈ limitFields, values.lookup name = none) :
    ∃ text values', marshal (setField fields "max_tokens" (formatInt maximum)) = some text ∧
      readObject text = some values' ∧ Limited maximum values' ∧
      values'.lookup "max_tokens" = some (.atom (formatInt maximum)) ∧
      ∀ name ∉ limitFields, values'.lookup name = values.lookup name := by
  obtain ⟨hstands, hinteger⟩ := stands_formatInt hpos
  have hfresh : "max_tokens" ∉ values.map (·.1) := by
    intro hmem
    obtain ⟨value, hvalue⟩ := Js.lookup_of_mem_keys hmem
    rw [hnone _ (by decide)] at hvalue; cases hvalue
  have hset : setField fields "max_tokens" (formatInt maximum) =
      fields ++ [("max_tokens", formatInt maximum)] := by
    rw [setField, filter_eq_self.mpr fun field hfield => ?_]
    refine decide_eq_true fun hname => hfresh ?_
    rw [← forall₂_names h, ← hname]; exact mem_map_of_mem hfield
  have hwritten : Forall₂ Decoded (fields ++ [("max_tokens", formatInt maximum)])
      (values ++ [("max_tokens", .atom (formatInt maximum))]) :=
    rel_append h (.cons ⟨rfl, hstands⟩ .nil)
  have hnodup' :
      ((values ++ [("max_tokens", Value.atom (formatInt maximum))]).map (·.1)).Nodup := by
    rw [map_append]
    exact hnodup.append (nodup_singleton _) (disjoint_singleton.mpr hfresh)
  obtain ⟨text, values', hmarshal, hread, hdistinct, hlookup⟩ := marshal_read hwritten hnodup'
  have hothers : ∀ name, name ≠ "max_tokens" → values'.lookup name = values.lookup name := by
    intro name hname
    rw [hlookup, lookup_append, Js.lookup_cons_if, if_neg hname]; exact or_none
  have hlimit : values'.lookup "max_tokens" = some (.atom (formatInt maximum)) := by
    rw [hlookup, lookup_append, hnone _ (by decide), Js.lookup_cons_if, if_pos rfl]
    rfl
  refine ⟨text, values', hset ▸ hmarshal, hread, ⟨hdistinct, fun name hname value hvalue => ?_⟩,
    hlimit, fun name hname => hothers name fun heq => hname (heq ▸ by decide)⟩
  by_cases heq : name = "max_tokens"
  · rw [heq, hlimit] at hvalue
    cases hvalue; exact ⟨maximum, hinteger, hpos, le_rfl⟩
  · rw [hothers name heq, hnone name hname] at hvalue; cases hvalue

end Marshalling

/-- A chat request is accepted if it is one object that is limited, as it stands or once the
limit is written into it. What is forwarded is limited, and its other fields are those of the
request. -/
theorem guardChatBody_bounded {maximum : ℤ} (hpos : 1 ≤ maximum) (hmax : maximum < 2 ^ 63)
    (body : Bytes) :
    match guardChatBody body maximum with
    | .error _ => ∀ fields, readObject body = some fields → ¬ Limited maximum fields
    | .ok guarded => ∃ fields guardedFields,
        readObject body = some fields ∧ Limited maximum fields ∧
        readObject guarded = some guardedFields ∧ Limited maximum guardedFields ∧
        (∃ name ∈ limitFields, ∃ value, guardedFields.lookup name = some value) ∧
        ∀ name ∉ limitFields, guardedFields.lookup name = fields.lookup name := by
  unfold guardChatBody
  cases hdecode : decodeTopLevelObject body with
  | error e =>
    intro values hvalues hlimited
    obtain ⟨fields, hfields⟩ := decodeTopLevelObject_isOk hvalues hlimited.distinct
    rw [hfields] at hdecode; cases hdecode
  | ok fields =>
    obtain ⟨values, hread, hnodup, hdecoded⟩ := decodeTopLevelObject_ok hdecode
    simp only [bind, Except.bind]
    cases hlimits : checkLimits fields maximum false limitFields with
    | error e =>
      intro values' hvalues' hlimited
      cases hread.symm.trans hvalues'
      have hok := (checkLimits_limited hmax hdecoded).mpr ⟨hlimited.within, rfl⟩
      rw [hlimits] at hok; cases hok
    | ok found =>
      obtain ⟨hwithin, hfound⟩ := (checkLimits_limited hmax hdecoded).mp hlimits
      cases found with
      | true =>
        obtain ⟨name, hname, hsome⟩ := any_eq_true.mp hfound.symm
        exact ⟨values, values, hread, ⟨hnodup, hwithin⟩, hread, ⟨hnodup, hwithin⟩,
          ⟨name, hname, isSome_iff_exists.mp hsome⟩, fun _ _ => rfl⟩
      | false =>
        have hnone : ∀ name ∈ limitFields, values.lookup name = none := fun name hname =>
          not_isSome_iff_eq_none.mp (any_eq_false.mp hfound.symm name hname)
        obtain ⟨text, values', hmarshal, hread', hlimited', hlimit, hothers⟩ :=
          marshal_limit hdecoded hnodup hpos hnone
        simp only [Bool.false_eq_true, if_false, hmarshal]
        exact ⟨values, values', hread, ⟨hnodup, hwithin⟩, hread', hlimited',
          ⟨"max_tokens", by decide, _, hlimit⟩, hothers⟩

theorem guardChatBody_bounded_unlimited : ∃ fields guardedFields,
    readObject (lit "\x7b\"model\": \"a\"\x7d") = some fields ∧ Limited 8 fields ∧
    readObject (lit "\x7b\"max_tokens\":8,\"model\":\"a\"\x7d") = some guardedFields ∧
    Limited 8 guardedFields ∧
    (∃ name ∈ limitFields, ∃ value, guardedFields.lookup name = some value) ∧
    ∀ name ∉ limitFields, guardedFields.lookup name = fields.lookup name :=
  guardChatBody_bounded (show (1 : ℤ) ≤ 8 by decide) (by decide) (lit "\x7b\"model\": \"a\"\x7d")

end NemoClaw.RequestGuard
