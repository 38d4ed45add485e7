import NemoClaw.Js.Text

/- Textual IPv4 and IPv6 addresses.

A spelling is kept apart from the address it denotes: a group has up to four hex
digits of either case and any number of leading zeros, one run of zero groups may be
left out, and the last two groups may be written as a dotted quad. Texts are lists of
characters; an IPv6 text is its pieces joined by colons, where a run left out is an
empty piece between two others, doubled at either end.

What is provided:
  1. `Hextet`, `Octet`, `Dotted`, `V6Text` — well-formed texts, with what they denote.
  2. `V6Text.splitOn_text` — the pieces of a text are found again by splitting it.
  3. `V6Text.lower` — the same address in lower case.
-/
namespace AddressText

open Js List

/-! ## Digits -/

def hexDigit (c : Char) : ℕ :=
  if isDigit c then c.toNat - '0'.toNat
  else if 'a' ≤ c ∧ c ≤ 'f' then c.toNat - 'a'.toNat + 10
  else c.toNat - 'A'.toNat + 10

def natOfHex (cs : List Char) : ℕ := cs.foldl (fun n c => 16 * n + hexDigit c) 0

/-- A letter of a text in lower case; others stay. -/
def lowerChar (c : Char) : Char := if c.val = 0x212A then 'k' else c.toLower

/-- One group of an IPv6 text. -/
structure Hextet where
  text : List Char
  nonempty : text ≠ []
  short : text.length ≤ 4
  digits : ∀ c ∈ text, isHex c

def Hextet.value (h : Hextet) : ℕ := natOfHex h.text

/-- One number of a dotted quad. -/
structure Octet where
  text : List Char
  nonempty : text ≠ []
  short : text.length ≤ 3
  digits : ∀ c ∈ text, isDigit c
  bounded : natOfDigits text ≤ 255

def Octet.value (o : Octet) : ℕ := natOfDigits o.text

structure Dotted where
  first : Octet
  second : Octet
  third : Octet
  fourth : Octet

namespace Dotted

def octets (d : Dotted) : List Octet := [d.first, d.second, d.third, d.fourth]

def text (d : Dotted) : List Char := ['.'].intercalate (d.octets.map (·.text))

def values (d : Dotted) : List ℕ := d.octets.map (·.value)

def groups (d : Dotted) : List ℕ :=
  [256 * d.first.value + d.second.value, 256 * d.third.value + d.fourth.value]

end Dotted

/-- An IPv6 text: the groups before and, after a run that is left out, behind it, and a
dotted quad for the last two. -/
structure V6Text where
  before : List Hextet
  after : Option (List Hextet)
  dotted : Option Dotted
  fits : match after with
    | none => before.length + (if dotted.isSome then 2 else 0) = 8
    | some after => before.length + after.length + (if dotted.isSome then 2 else 0) ≤ 7

namespace V6Text

/-- The dotted quad as a piece, if there is one. -/
def tail (t : V6Text) : List (List Char) := (t.dotted.map Dotted.text).toList

def hexPieces (groups : List Hextet) : List (List Char) := groups.map (·.text)

/-- An empty side of a run that is left out is an empty piece. -/
def side (pieces : List (List Char)) : List (List Char) := if pieces = [] then [[]] else pieces

def pieces (t : V6Text) : List (List Char) :=
  match t.after with
  | none => hexPieces t.before ++ t.tail
  | some after => side (hexPieces t.before) ++ [[]] ++ side (hexPieces after ++ t.tail)

def text (t : V6Text) : List Char := [':'].intercalate t.pieces

def groups (t : V6Text) : List ℕ :=
  let before := t.before.map (·.value)
  let after := (t.after.getD []).map (·.value) ++ (t.dotted.map Dotted.groups).getD []
  before ++ List.replicate (8 - (before.length + after.length)) 0 ++ after

end V6Text

/-! ## Characters of a text -/

variable {c : Char}

lemma toNat_lt_of_isHex (h : isHex c) : c.toNat < 128 := by
  simp only [isHex, isLowerHex, isDigit, Bool.or_eq_true, Bool.and_eq_true, decide_eq_true_eq,
    Char.le_def, UInt32.le_iff_toNat_le] at h
  have hval : c.toNat = c.val.toNat := rfl
  have hupper : 'F'.val.toNat = 70 := rfl
  have hlower : 'f'.val.toNat = 102 := rfl
  have hdigit : '9'.val.toNat = 57 := rfl; omega

lemma forall_isHex {p : Char → Prop}
    (h : ∀ n < 128, isHex (Char.ofNat n) → p (Char.ofNat n)) (hc : isHex c) :
    p c := by
  have hnat := h c.toNat (toNat_lt_of_isHex hc)
  rw [Char.ofNat_toNat] at hnat; exact hnat hc

lemma isHex_of_isDigit (h : isDigit c) : isHex c := by
  simp [isHex, isLowerHex, h]

lemma isHex_of_isLowerHex (h : isLowerHex c) : isHex c := by
  simp [isHex, h]

lemma isLowerHex_lowerChar (h : isHex c) : isLowerHex (lowerChar c) := by
  refine forall_isHex (p := fun c => isLowerHex (lowerChar c)) ?_ h
  decide

lemma hexDigit_lowerChar (h : isHex c) : hexDigit (lowerChar c) = hexDigit c := by
  refine forall_isHex (p := fun c => hexDigit (lowerChar c) = hexDigit c) ?_ h
  decide

lemma lowerChar_of_isLowerHex (h : isLowerHex c) : lowerChar c = c := by
  have haux : isLowerHex c → lowerChar c = c := by
    refine forall_isHex (p := fun c => isLowerHex c → lowerChar c = c) ?_
      (isHex_of_isLowerHex h)
    decide
  exact haux h

lemma lowerChar_eq_one (h : isHex c) (hone : lowerChar c = '1') : c = '1' := by
  have haux : lowerChar c = '1' → c = '1' := by
    refine forall_isHex (p := fun c => lowerChar c = '1' → c = '1') ?_ h
    decide
  exact haux hone

/-- The lower-case digit of a value. -/
def hexChar (n : ℕ) : Char := if n < 10 then Char.ofNat (48 + n) else Char.ofNat (87 + n)

lemma hexChar_hexDigit (h : isLowerHex c) : hexChar (hexDigit c) = c := by
  have haux : isLowerHex c → hexChar (hexDigit c) = c := by
    refine forall_isHex (p := fun c => isLowerHex c → hexChar (hexDigit c) = c) ?_
      (isHex_of_isLowerHex h)
    decide
  exact haux h

lemma hexDigit_lt (h : isHex c) : hexDigit c < 16 := by
  refine forall_isHex (p := fun c => hexDigit c < 16) ?_ h
  decide

lemma natOfHex_cons (c : Char) (cs : List Char) :
    natOfHex (c :: cs) = 16 ^ cs.length * hexDigit c + natOfHex cs := by
  unfold natOfHex
  suffices haux : ∀ (cs : List Char) (n : ℕ), cs.foldl (fun n c => 16 * n + hexDigit c) n =
      16 ^ cs.length * n + cs.foldl (fun n c => 16 * n + hexDigit c) 0 by
    rw [foldl_cons, haux]; simp
  intro cs
  induction cs with
  | nil => simp
  | cons d cs ih =>
    intro n
    rw [foldl_cons, ih, foldl_cons, ih (16 * 0 + hexDigit d), length_cons, pow_succ]
    ring

lemma natOfHex_lt {cs : List Char} (h : ∀ c ∈ cs, isHex c) :
    natOfHex cs < 16 ^ cs.length := by
  induction cs with
  | nil => simp [natOfHex]
  | cons c cs ih =>
    rw [natOfHex_cons, length_cons, pow_succ]
    have hc := hexDigit_lt (h c (by simp))
    have hcs := ih fun d hd => h d (by simp [hd])
    calc 16 ^ cs.length * hexDigit c + natOfHex cs
        < 16 ^ cs.length * hexDigit c + 16 ^ cs.length := by omega
      _ = 16 ^ cs.length * (hexDigit c + 1) := by ring
      _ ≤ 16 ^ cs.length * 16 := Nat.mul_le_mul_left _ (by omega)

lemma eq_zero_of_natOfHex {cs : List Char} (h : ∀ c ∈ cs, isHex c)
    (hzero : natOfHex cs = 0) : ∀ c ∈ cs, c = '0' := by
  induction cs with
  | nil => simp
  | cons c cs ih =>
    rw [natOfHex_cons] at hzero
    have hpos : 0 < 16 ^ cs.length := by positivity
    have hdigit : hexDigit c = 0 := by
      by_contra hne
      have : 0 < 16 ^ cs.length * hexDigit c := by positivity
      omega
    intro d hd
    rcases mem_cons.mp hd with rfl | hd
    · have haux : hexDigit d = 0 → d = '0' := by
        refine forall_isHex (p := fun d => hexDigit d = 0 → d = '0') ?_ (h d (by simp))
        decide
      exact haux hdigit
    · exact ih (fun c hc => h c (by simp [hc])) (by omega) d hd

lemma mem_intercalate {sep : Char} {parts : List (List Char)} (h : c ∈ [sep].intercalate parts) :
    c = sep ∨ ∃ part ∈ parts, c ∈ part := by
  induction parts with
  | nil => simp at h
  | cons part rest ih =>
    cases rest with
    | nil =>
      right
      exact ⟨part, by simp, by simpa using h⟩
    | cons next rest =>
      rw [intercalate_cons_cons] at h
      rcases mem_append.mp h with h | h
      · rcases mem_append.mp h with h | h
        · exact .inr ⟨part, by simp, h⟩
        · exact .inl (mem_singleton.mp h)
      · rcases ih h with hsep | ⟨p, hp, hc⟩
        · exact .inl hsep
        · exact .inr ⟨p, mem_cons_of_mem _ hp, hc⟩

lemma splitOn_of_notMem {sep : Char} {cs : List Char} (h : sep ∉ cs) : cs.splitOn sep = [cs] := by
  have hsplit : ([sep].intercalate [cs]).splitOn sep = [cs] :=
    splitOn_intercalate sep (by simpa using h) (by simp)
  rwa [intercalate_singleton] at hsplit

lemma map_intercalate (f : Char → Char) {sep : Char} (hsep : f sep = sep)
    (parts : List (List Char)) :
    ([sep].intercalate parts).map f = [sep].intercalate (parts.map (List.map f)) := by
  induction parts with
  | nil => simp
  | cons part rest ih =>
    cases rest with
    | nil => simp
    | cons next rest =>
      rw [intercalate_cons_cons, map_append, map_append, ih]
      simp only [map_cons, map_nil, hsep, intercalate_cons_cons]

/-! ## Groups -/

namespace Hextet

def lower (h : Hextet) : Hextet where
  text := h.text.map lowerChar
  nonempty := by simpa using h.nonempty
  short := by simpa using h.short
  digits := by
    intro c hc
    obtain ⟨d, hd, rfl⟩ := mem_map.mp hc
    exact isHex_of_isLowerHex (isLowerHex_lowerChar (h.digits d hd))

lemma value_lower (h : Hextet) : h.lower.value = h.value := by
  have hfold : ∀ (cs : List Char) (n : ℕ), (∀ c ∈ cs, isHex c) →
      cs.foldl (fun n c => 16 * n + hexDigit (lowerChar c)) n =
        cs.foldl (fun n c => 16 * n + hexDigit c) n := by
    intro cs
    induction cs with
    | nil => intro n _; rfl
    | cons c cs ih =>
      intro n hcs
      rw [foldl_cons, foldl_cons, hexDigit_lowerChar (hcs c (by simp))]
      exact ih _ fun d hd => hcs d (by simp [hd])
  show (h.text.map lowerChar).foldl (fun n c => 16 * n + hexDigit c) 0 = natOfHex h.text
  rw [foldl_map]; exact hfold h.text 0 h.digits

lemma value_lt (h : Hextet) : h.value < 65536 := by
  have hlt := natOfHex_lt h.digits
  have hpow : 16 ^ h.text.length ≤ 16 ^ 4 := Nat.pow_le_pow_right (by decide) h.short
  exact lt_of_lt_of_le hlt hpow

lemma text_of_value (h : Hextet) (hlower : ∀ c ∈ h.text, isLowerHex c)
    (hvalue : 4096 ≤ h.value) :
    h.text = [hexChar (h.value / 4096), hexChar (h.value / 256 % 16), hexChar (h.value / 16 % 16),
      hexChar (h.value % 16)] := by
  have hlength : h.text.length = 4 := by
    have hlt := natOfHex_lt h.digits
    have hshort := h.short
    by_contra hne
    have hpow : 16 ^ h.text.length ≤ 16 ^ 3 := Nat.pow_le_pow_right (by decide) (by omega)
    have hle : h.value < 4096 := lt_of_lt_of_le hlt hpow; omega
  obtain ⟨a, b, c, d, htext⟩ := length_eq_four.mp hlength
  rw [htext] at hlower
  have ha := hlower a (by simp)
  have hb := hlower b (by simp)
  have hc := hlower c (by simp)
  have hd := hlower d (by simp)
  have hb' := hexDigit_lt (isHex_of_isLowerHex hb)
  have hc' := hexDigit_lt (isHex_of_isLowerHex hc)
  have hd' := hexDigit_lt (isHex_of_isLowerHex hd)
  have hsum : h.value = 4096 * hexDigit a + 256 * hexDigit b + 16 * hexDigit c + hexDigit d := by
    unfold value
    rw [htext]; simp only [natOfHex, foldl_cons, foldl_nil]; ring
  rw [htext, hsum]
  have h1 : (4096 * hexDigit a + 256 * hexDigit b + 16 * hexDigit c + hexDigit d) / 4096 =
      hexDigit a := by omega
  have h2 : (4096 * hexDigit a + 256 * hexDigit b + 16 * hexDigit c + hexDigit d) / 256 % 16 =
      hexDigit b % 16 := by omega
  have h3 : (4096 * hexDigit a + 256 * hexDigit b + 16 * hexDigit c + hexDigit d) / 16 % 16 =
      hexDigit c % 16 := by omega
  have h4 : (4096 * hexDigit a + 256 * hexDigit b + 16 * hexDigit c + hexDigit d) % 16 =
      hexDigit d % 16 := by omega
  rw [h1, h2, h3, h4, Nat.mod_eq_of_lt hb', Nat.mod_eq_of_lt hc', Nat.mod_eq_of_lt hd',
    hexChar_hexDigit ha, hexChar_hexDigit hb, hexChar_hexDigit hc, hexChar_hexDigit hd]

lemma not_mem_text (h : Hextet) {c : Char} (hc : isHex c = false) : c ∉ h.text := by
  intro hmem
  rw [h.digits c hmem] at hc; cases hc

end Hextet

namespace Dotted

theorem splitOn_text (d : Dotted) : d.text.splitOn '.' = d.octets.map (·.text) := by
  refine splitOn_intercalate '.' (fun part hpart => ?_) (by simp [octets])
  obtain ⟨o, ho, rfl⟩ := mem_map.mp hpart
  intro hdot
  have := o.digits '.' hdot
  revert this; decide

lemma mem_text (d : Dotted) {c : Char} (h : c ∈ d.text) : c = '.' ∨ isDigit c := by
  rcases mem_intercalate h with hdot | ⟨part, hpart, hc⟩
  · exact .inl hdot
  · obtain ⟨o, ho, rfl⟩ := mem_map.mp hpart; exact .inr (o.digits c hc)

lemma not_mem_text (d : Dotted) {c : Char} (hdot : c ≠ '.') (hdigit : isDigit c = false) :
    c ∉ d.text := by
  intro hmem
  rcases d.mem_text hmem with h | h
  · exact hdot h
  · rw [h] at hdigit; cases hdigit

lemma text_ne_nil (d : Dotted) : d.text ≠ [] := by
  intro h
  have hsplit := d.splitOn_text
  rw [h] at hsplit
  have := congrArg List.length hsplit; simp [octets] at this

end Dotted

namespace V6Text

/-- The groups that are written in hex. -/
def hextets (t : V6Text) : List Hextet := t.before ++ t.after.getD []

lemma mem_pieces {t : V6Text} {piece : List Char} (h : piece ∈ t.pieces) :
    piece = [] ∨ (∃ h ∈ t.hextets, piece = h.text) ∨
      ∃ d, t.dotted = some d ∧ piece = d.text := by
  have hside : ∀ {parts : List (List Char)}, piece ∈ side parts → piece = [] ∨ piece ∈ parts := by
    intro parts hmem
    unfold side at hmem
    split at hmem
    · exact .inl (mem_singleton.mp hmem)
    · exact .inr hmem
  have hhex : ∀ {groups : List Hextet}, groups ⊆ t.hextets → piece ∈ hexPieces groups →
      ∃ h ∈ t.hextets, piece = h.text := by
    intro groups hsub hmem
    obtain ⟨g, hg, rfl⟩ := mem_map.mp hmem; exact ⟨g, hsub hg, rfl⟩
  have htail : piece ∈ t.tail → ∃ d, t.dotted = some d ∧ piece = d.text := by
    intro hmem
    unfold tail at hmem
    cases hd : t.dotted with
    | none => simp [hd] at hmem
    | some d => rw [hd] at hmem; exact ⟨d, rfl, mem_singleton.mp hmem⟩
  have hbefore : t.before ⊆ t.hextets := fun g hg => mem_append_left _ hg
  unfold pieces at h
  cases hafter : t.after with
  | none =>
    rw [hafter] at h
    rcases mem_append.mp h with h | h
    · exact .inr (.inl (hhex hbefore h))
    · exact .inr (.inr (htail h))
  | some after =>
    rw [hafter] at h
    have hrest : after ⊆ t.hextets := by
      intro g hg
      unfold hextets
      rw [hafter]; exact mem_append_right _ hg
    rcases mem_append.mp h with h | h
    · rcases mem_append.mp h with h | h
      · rcases hside h with h | h
        · exact .inl h
        · exact .inr (.inl (hhex hbefore h))
      · exact .inl (mem_singleton.mp h)
    · rcases hside h with h | h
      · exact .inl h
      · rcases mem_append.mp h with h | h
        · exact .inr (.inl (hhex hrest h))
        · exact .inr (.inr (htail h))

lemma colon_notMem_pieces {t : V6Text} {piece : List Char} (h : piece ∈ t.pieces) :
    ':' ∉ piece := by
  rcases mem_pieces h with rfl | ⟨g, -, rfl⟩ | ⟨d, -, rfl⟩
  · simp
  · exact g.not_mem_text (by decide)
  · exact d.not_mem_text (by decide) (by decide)

lemma length_side (parts : List (List Char)) : 1 ≤ (side parts).length := by
  unfold side
  split
  · simp
  · next h => exact length_pos_iff.mpr h

variable (t : V6Text)

lemma three_le_length_pieces : 3 ≤ t.pieces.length := by
  have hfits := t.fits
  unfold pieces tail
  cases hafter : t.after with
  | none =>
    rw [hafter] at hfits
    cases hd : t.dotted with
    | none =>
      simp only [hd, Option.isSome_none, Bool.false_eq_true, if_false] at hfits
      simp [hexPieces]; omega
    | some d =>
      simp only [hd, Option.isSome_some, if_true] at hfits; simp [hexPieces]; omega
  | some after =>
    have h1 := length_side (hexPieces t.before)
    have h2 := length_side (hexPieces after ++ (t.dotted.map Dotted.text).toList)
    simp only [length_append, length_singleton]; omega

theorem splitOn_text : t.text.splitOn ':' = t.pieces := by
  refine splitOn_intercalate ':' (fun _ h => colon_notMem_pieces h) fun h => ?_
  have := t.three_le_length_pieces; simp [h] at this

lemma mem_text {t : V6Text} {c : Char} (h : c ∈ t.text) :
    c = ':' ∨ c = '.' ∨ isHex c := by
  rcases mem_intercalate h with hcolon | ⟨piece, hpiece, hc⟩
  · exact .inl hcolon
  rcases mem_pieces hpiece with rfl | ⟨g, -, rfl⟩ | ⟨d, -, rfl⟩
  · cases hc
  · exact .inr (.inr (g.digits c hc))
  · rcases d.mem_text hc with hdot | hdigit
    · exact .inr (.inl hdot)
    · exact .inr (.inr (isHex_of_isDigit hdigit))

def lower (t : V6Text) : V6Text where
  before := t.before.map Hextet.lower
  after := t.after.map (List.map Hextet.lower)
  dotted := t.dotted
  fits := by
    have hfits := t.fits
    cases hafter : t.after <;> rw [hafter] at hfits <;> simpa using hfits

lemma groups_lower : t.lower.groups = t.groups := by
  have hvalues : ∀ groups : List Hextet,
      (groups.map Hextet.lower).map (·.value) = groups.map (·.value) := by
    intro groups
    rw [map_map]; exact map_congr_left fun g _ => g.value_lower
  unfold groups lower
  simp only [hvalues]
  cases t.after with
  | none => rfl
  | some after => simp only [Option.map_some, Option.getD_some, hvalues]

lemma pieces_lower : t.lower.pieces = t.pieces.map (List.map lowerChar) := by
  have hhex : ∀ groups : List Hextet,
      hexPieces (groups.map Hextet.lower) = (hexPieces groups).map (List.map lowerChar) := by
    intro groups
    unfold hexPieces
    rw [map_map, map_map]; rfl
  have hside : ∀ parts : List (List Char),
      side (parts.map (List.map lowerChar)) = (side parts).map (List.map lowerChar) := by
    intro parts
    unfold side
    cases parts <;> simp
  have htail : t.lower.tail = t.tail.map (List.map lowerChar) := by
    unfold tail lower
    simp only
    cases t.dotted with
    | none => rfl
    | some d =>
    have hsame : d.text.map lowerChar = d.text := by
      refine (map_congr_left fun c hc => ?_).trans (map_id _)
      rcases d.mem_text hc with rfl | hdigit
      · decide
      · exact lowerChar_of_isLowerHex (by simp [isLowerHex, hdigit])
    simp [hsame]
  unfold pieces
  rw [htail]
  cases hafter : t.after with
  | none =>
    have hnone : t.lower.after = none := by simp [lower, hafter]
    simp only [hnone, map_append]
    rw [← hhex]; rfl
  | some after =>
    have hsome : t.lower.after = some (after.map Hextet.lower) := by simp [lower, hafter]
    simp only [hsome, map_append, map_cons, map_nil]
    rw [hhex, ← map_append, hside, ← hside (hexPieces t.before), ← hhex]; rfl

lemma text_lower : t.lower.text = t.text.map lowerChar := by
  unfold text
  rw [pieces_lower, map_intercalate lowerChar (by decide)]

/-- The hex digits of the text are in lower case. -/
def Lowercase (t : V6Text) : Prop := ∀ h ∈ t.hextets, ∀ c ∈ h.text, isLowerHex c

lemma lowercase_lower : t.lower.Lowercase := by
  have hlower : ∀ (groups : List Hextet) (g : Hextet), g ∈ groups.map Hextet.lower →
      ∀ c ∈ g.text, isLowerHex c := by
    intro groups g hg c hc
    obtain ⟨h, -, rfl⟩ := mem_map.mp hg
    obtain ⟨d, hd, rfl⟩ := mem_map.mp hc
    exact isLowerHex_lowerChar (h.digits d hd)
  intro g hg
  rcases mem_append.mp hg with hg | hg
  · exact hlower t.before g hg
  cases hafter : t.after with
  | none => simp [lower, hafter] at hg
  | some after =>
    have hsome : t.lower.after = some (after.map Hextet.lower) := by simp [lower, hafter]
    rw [hsome] at hg; exact hlower after g hg

end V6Text

end AddressText
