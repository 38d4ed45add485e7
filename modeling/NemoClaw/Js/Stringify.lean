import Mathlib.Data.String.Basic
import Mathlib.Tactic

/- `JSON.stringify` of records.

The texts that the journal stores write are objects with fixed keys; their values are
strings, booleans, null and further objects.
-/
namespace Js

open List

def hexDigitChar (n : ℕ) : Char := if n < 10 then Char.ofNat (48 + n) else Char.ofNat (87 + n)

/-- One character of a string literal. -/
def escapeChar (c : Char) : List Char :=
  if c = '"' then ['\\', '"']
  else if c = '\\' then ['\\', '\\']
  else if c.toNat = 8 then ['\\', 'b']
  else if c.toNat = 9 then ['\\', 't']
  else if c.toNat = 10 then ['\\', 'n']
  else if c.toNat = 12 then ['\\', 'f']
  else if c.toNat = 13 then ['\\', 'r']
  else if c.toNat < 32 then
    ['\\', 'u', '0', '0', hexDigitChar (c.toNat / 16), hexDigitChar (c.toNat % 16)]
  else [c]

def quote (s : String) : String := "\"" ++ .ofList (s.toList.flatMap escapeChar) ++ "\""

def quoteOrNull : Option String → String
  | none => "null"
  | some s => quote s

def boolText (b : Bool) : String := if b then "true" else "false"

def objectText (fields : List (String × String)) : String :=
  "\x7b" ++ ",".intercalate (fields.map fun field => quote field.1 ++ ":" ++ field.2) ++ "\x7d"

/-- `Buffer.byteLength(text, "utf8")`. -/
def byteLength (text : String) : ℕ := text.utf8ByteSize

example : objectText [("phase", quote "cut\"over"), ("commitReceipt", "null")] =
    "\x7b\"phase\":\"cut\\\"over\",\"commitReceipt\":null\x7d" := by decide +kernel

lemma quote_ofList {cs : List Char} (h : cs.all fun c => escapeChar c = [c]) :
    quote (.ofList cs) = .ofList ('"' :: cs ++ ['"']) := by
  have hcs : cs.flatMap escapeChar = cs := by
    rw [List.flatMap_congr (by simpa using h)]; simp
  simp [quote, hcs, ← String.toList_inj]

lemma utf8Len_escapeChar {c : Char} (hc : 32 ≤ c.toNat) :
    String.utf8Len (escapeChar c) ≤ 2 * c.utf8Size := by
  have hsize := c.utf8Size_pos
  unfold escapeChar
  split
  · next h =>
    subst h; decide
  · split
    · next h =>
      subst h; decide
    · rw [if_neg (by omega), if_neg (by omega), if_neg (by omega), if_neg (by omega),
        if_neg (by omega), if_neg (by omega)]
      simp only [String.utf8Len_cons, String.utf8Len_nil]; omega

lemma utf8Len_escape {cs : List Char} (h : ∀ c ∈ cs, 32 ≤ c.toNat) :
    String.utf8Len (cs.flatMap escapeChar) ≤ 2 * String.utf8Len cs := by
  induction cs with
  | nil => exact Nat.le_refl 0
  | cons c cs ih =>
    have hc := utf8Len_escapeChar (h c mem_cons_self)
    have hrest := ih fun c' hc' => h c' (mem_cons_of_mem c hc')
    rw [flatMap_cons, String.utf8Len_append, String.utf8Len_cons]; omega

lemma byteLength_quote {s : String} (h : ∀ c ∈ s.toList, 32 ≤ c.toNat) :
    byteLength (quote s) ≤ 2 * byteLength s + 2 := by
  have hescape := utf8Len_escape h
  have hs : String.utf8Len s.toList = byteLength s := by
    rw [← String.utf8ByteSize_ofList, String.ofList_toList]; rfl
  have hquote : byteLength "\"" = 1 := by decide
  unfold byteLength quote at *
  rw [String.utf8ByteSize_append, String.utf8ByteSize_append,
    String.utf8ByteSize_ofList (s.toList.flatMap escapeChar)]
  omega

lemma byteLength_join (texts : List String) :
    byteLength (",".intercalate texts) ≤ (texts.map fun text => byteLength text + 1).sum := by
  induction texts with
  | nil => exact Nat.zero_le _
  | cons text texts ih =>
    cases texts with
    | nil => simp [byteLength]
    | cons next rest =>
    have hcomma : byteLength "," = 1 := by decide
    rw [String.intercalate_cons_cons, map_cons, sum_cons]
    unfold byteLength at *
    rw [String.utf8ByteSize_append, String.utf8ByteSize_append]; omega

lemma byteLength_objectText (fields : List (String × String)) :
    byteLength (objectText fields) ≤
      2 + (fields.map fun field => byteLength (quote field.1) + byteLength field.2 + 2).sum := by
  have hjoin := byteLength_join (fields.map fun field => quote field.1 ++ ":" ++ field.2)
  have hcolon : byteLength ":" = 1 := by decide
  have hfield : ((fun text => byteLength text + 1) ∘ fun field : String × String =>
      quote field.1 ++ ":" ++ field.2) =
      fun field => byteLength (quote field.1) + byteLength field.2 + 2 := by
    funext field
    unfold byteLength at *
    simp only [Function.comp_apply, String.utf8ByteSize_append]; omega
  have hbraces : byteLength "\x7b" = 1 ∧ byteLength "\x7d" = 1 := by decide
  rw [map_map, hfield] at hjoin
  unfold objectText
  unfold byteLength at *
  rw [String.utf8ByteSize_append, String.utf8ByteSize_append]; omega

end Js
