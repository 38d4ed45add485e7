import NemoClaw.Lib.AddressText

/- Texts with percent escapes, and the slashes that decoding brings out.

A percent sign and two hexadecimal digits are an escape; a percent sign that starts no
escape stands for itself. What is decoded may hold new escapes, so a slash can be hidden
under more than one layer.

  1. `percentDecode` removes one layer; `slashEscapes` counts the escapes of a slash or of a
     backslash.
  2. `slashes_percentDecode` — decoding brings out as many slashes as were escaped.
  3. `shows_nothing_iff` — two layers show no slash exactly if none is escaped in the text,
     and none in what it is decoded to.
  4. `shows_slash_iff` — and that is so exactly if no spelling of such an escape stands in
     the text.
-/
namespace NemoClaw.PercentText

open Js AddressText List

/-- Percent-decoding, one layer; the bytes are read as characters. -/
def percentDecode : List Char → List Char
  | '%' :: c :: d :: rest =>
    if isHex c && isHex d then Char.ofNat (natOfHex [c, d]) :: percentDecode rest
    else '%' :: percentDecode (c :: d :: rest)
  | c :: rest => c :: percentDecode rest
  | [] => []

def isSlash (c : Char) : Bool := c = '/' || c = '\\'

def slashes (text : List Char) : ℕ := text.countP isSlash

/-- `%2f` and `%5c`, in any case. -/
def isSlashCode (c d : Char) : Bool :=
  isHex c && isHex d && isSlash (Char.ofNat (natOfHex [c, d]))

def slashEscapes : List Char → ℕ
  | '%' :: c :: d :: rest =>
    if isSlashCode c d then slashEscapes rest + 1 else slashEscapes (c :: d :: rest)
  | _ :: rest => slashEscapes rest
  | [] => 0

section Layers

variable {c d : Char} {rest text : List Char}

lemma isHex_ne_percent (h : isHex c) : c ≠ '%' ∧ isSlash c = false :=
  forall_isHex (p := fun c => c ≠ '%' ∧ isSlash c = false) (by decide) h

lemma slashEscapes_cons (h : c ≠ '%') : slashEscapes (c :: rest) = slashEscapes rest := by
  rw [slashEscapes]
  intro c' d' rest' hpercent; exact absurd hpercent h

lemma slashes_cons : slashes (c :: rest) = slashes rest + if isSlash c then 1 else 0 :=
  List.countP_cons

lemma slashes_percent : slashes ('%' :: rest) = slashes rest := slashes_cons

theorem slashes_percentDecode (text : List Char) :
    slashes (percentDecode text) = slashes text + slashEscapes text := by
  induction text using percentDecode.induct with
  | case1 c d rest hhex ih =>
    have hdigits := Bool.and_eq_true_iff.mp hhex
    have hc := isHex_ne_percent hdigits.1
    have hd := isHex_ne_percent hdigits.2
    rw [percentDecode, if_pos hhex, slashEscapes, isSlashCode, hhex, Bool.true_and,
      slashes_cons, ih, slashes_percent]
    simp only [slashes_cons, hc.2, hd.2, Bool.false_eq_true, if_false]
    split
    · omega
    · rw [slashEscapes_cons hc.1, slashEscapes_cons hd.1]; omega
  | case2 c d rest hhex ih =>
    have hcode : isSlashCode c d = false := by simp [isSlashCode, hhex]
    rw [percentDecode, if_neg hhex, slashEscapes, hcode, slashes_percent, slashes_percent, ih]
    simp
  | case3 c rest hescape ih =>
    rw [percentDecode, slashEscapes, slashes_cons, ih, slashes_cons]
    · omega
    · exact hescape
    · exact hescape
  | case4 => rfl

theorem shows_nothing_iff :
    (slashes (percentDecode text) = slashes text ∧
      slashes (percentDecode (percentDecode text)) = slashes text) ↔
    slashEscapes text = 0 ∧ slashEscapes (percentDecode text) = 0 := by
  have honce := slashes_percentDecode text
  have htwice := slashes_percentDecode (percentDecode text); omega

end Layers

/-- The texts that are `%2f` or `%5c` or are decoded to one: the percent sign, the digit and the
letter may each be an escape themselves. -/
def slashSpellings : List (List Char) :=
  ([[['%'], "%25".toList], [['2'], "%32".toList],
      [['f'], ['F'], "%66".toList, "%46".toList]].sections ++
    [[['%'], "%25".toList], [['5'], "%35".toList],
      [['c'], ['C'], "%63".toList, "%43".toList]].sections).map flatten

/-- A character whose code has these two hexadecimal digits, as it is and as an escape. -/
def spellingsOf (a b : ℕ) : List (List Char) :=
  [[Char.ofNat (16 * a + b)], ['%', Char.ofNat (48 + a), Char.ofNat (48 + b)]]

section Spellings

variable {c d x : Char} {rest text left : List Char}

lemma slashEscapes_ne_zero_iff : slashEscapes text ≠ 0 ↔
    ∃ before c d after, text = before ++ '%' :: c :: d :: after ∧ isSlashCode c d := by
  induction text using slashEscapes.induct with
  | case1 c d rest hcode ih =>
    rw [slashEscapes, if_pos hcode]
    exact iff_of_true (by omega) ⟨[], c, d, rest, rfl, hcode⟩
  | case2 c d rest hcode ih =>
    rw [slashEscapes, if_neg hcode, ih]
    constructor
    · rintro ⟨before, c', d', after, htext, hcode'⟩
      exact ⟨'%' :: before, c', d', after, by rw [htext]; rfl, hcode'⟩
    · rintro ⟨before, c', d', after, htext, hcode'⟩
      cases before with
      | nil => cases htext; exact absurd hcode' hcode
      | cons first before => exact ⟨before, c', d', after, (List.cons.inj htext).2, hcode'⟩
  | case3 first rest hescape ih =>
    rw [slashEscapes, ih]
    · constructor
      · rintro ⟨before, c', d', after, htext, hcode'⟩
        exact ⟨first :: before, c', d', after, by rw [htext]; rfl, hcode'⟩
      · rintro ⟨before, c', d', after, htext, hcode'⟩
        cases before with
        | nil =>
          cases htext; exact absurd rfl (hescape _ _ _ rfl)
        | cons first before => exact ⟨before, c', d', after, (List.cons.inj htext).2, hcode'⟩
    · exact hescape
  | case4 => exact iff_of_false (by simp [slashEscapes]) (by simp)

lemma slashEscapes_append {before : List Char} (h : slashEscapes text ≠ 0) :
    slashEscapes (before ++ text) ≠ 0 := by
  obtain ⟨start, c, d, after, rfl, hcode⟩ := slashEscapes_ne_zero_iff.mp h
  exact slashEscapes_ne_zero_iff.mpr ⟨before ++ start, c, d, after, by simp, hcode⟩

/-- A decoded character was written as it is, or as an escape. -/
lemma percentDecode_cons_inv (h : percentDecode text = x :: left) :
    ∃ rest, percentDecode rest = left ∧ (text = x :: rest ∨
      ∃ c d, isHex c ∧ isHex d ∧ x = Char.ofNat (natOfHex [c, d]) ∧ text = '%' :: c :: d :: rest) := by
  induction text using percentDecode.induct with
  | case1 c d rest hhex ih =>
    rw [percentDecode, if_pos hhex] at h
    obtain ⟨rfl, hleft⟩ := List.cons.inj h
    obtain ⟨hc, hd⟩ := Bool.and_eq_true_iff.mp hhex
    exact ⟨rest, hleft, .inr ⟨c, d, hc, hd, rfl, rfl⟩⟩
  | case2 c d rest hhex ih =>
    rw [percentDecode, if_neg hhex] at h
    obtain ⟨rfl, hleft⟩ := List.cons.inj h
    exact ⟨_, hleft, .inl rfl⟩
  | case3 first rest hescape ih =>
    rw [percentDecode] at h
    · obtain ⟨rfl, hleft⟩ := List.cons.inj h
      exact ⟨rest, hleft, .inl rfl⟩
    · exact hescape
  | case4 => cases h

lemma percentDecode_append_inv {before : List Char} (h : percentDecode text = before ++ left) :
    ∃ first rest, text = first ++ rest ∧ percentDecode rest = left := by
  induction before generalizing text with
  | nil => exact ⟨[], text, rfl, h⟩
  | cons x before ih =>
    obtain ⟨rest, hrest, htext⟩ := percentDecode_cons_inv h
    obtain ⟨first, rest', hsplit, hleft⟩ := ih hrest
    rcases htext with rfl | ⟨c, d, -, -, -, rfl⟩
    · exact ⟨x :: first, rest', by rw [hsplit]; rfl, hleft⟩
    · exact ⟨'%' :: c :: d :: first, rest', by rw [hsplit]; rfl, hleft⟩

/-- A character that starts no escape stands for itself. -/
lemma percentDecode_cons_plain
    (h : ∀ d e more, rest = d :: e :: more → isHex d → isHex e → c ≠ '%') :
    percentDecode (c :: rest) = c :: percentDecode rest := by
  by_cases hescape : ∃ d e more, c = '%' ∧ rest = d :: e :: more
  · obtain ⟨d, e, more, rfl, rfl⟩ := hescape
    rw [percentDecode, if_neg]
    intro hhex
    obtain ⟨hd, he⟩ := Bool.and_eq_true_iff.mp hhex
    exact h d e more rfl hd he rfl
  · rw [percentDecode]
    intro d e more hc hrest
    exact hescape ⟨d, e, more, hc, hrest⟩

/-- No escape reaches into a text that starts with a percent sign. -/
lemma percentDecode_append (before rest : List Char) :
    percentDecode (before ++ '%' :: rest) = percentDecode before ++ percentDecode ('%' :: rest) := by
  induction before using percentDecode.induct with
  | case1 c d before hhex ih => simp [percentDecode, hhex, ih]
  | case2 c d before hhex ih =>
    rw [percentDecode, if_neg hhex, show '%' :: percentDecode (c :: d :: before) ++ percentDecode ('%' :: rest) =
      '%' :: (percentDecode (c :: d :: before) ++ percentDecode ('%' :: rest)) from rfl, ← ih]
    show percentDecode ('%' :: c :: d :: (before ++ '%' :: rest)) = _
    rw [percentDecode, if_neg hhex]; rfl
  | case3 c before hescape ih =>
    rw [percentDecode, cons_append, cons_append, ← ih]
    · refine percentDecode_cons_plain fun d e more hsplit hd he hc => ?_
      rcases before with _ | ⟨d', _ | ⟨e', before⟩⟩
      · obtain ⟨rfl, -⟩ := List.cons.inj hsplit
        exact (isHex_ne_percent hd).1 rfl
      · obtain ⟨-, htail⟩ := List.cons.inj hsplit
        obtain ⟨rfl, -⟩ := List.cons.inj htail
        exact (isHex_ne_percent he).1 rfl
      · exact hescape d' e' before hc rfl
    · exact hescape
  | case4 => rfl

lemma natOfHex_pair (c d : Char) : natOfHex [c, d] = 16 * hexDigit c + hexDigit d := by
  rw [natOfHex_cons, natOfHex_cons]
  simp [natOfHex]

lemma natOfHex_of_ofNat {n : ℕ} (hc : isHex c) (hd : isHex d) (hn : n < 256)
    (h : Char.ofNat n = Char.ofNat (natOfHex [c, d])) : natOfHex [c, d] = n := by
  have hc := hexDigit_lt hc
  have hd := hexDigit_lt hd
  rw [natOfHex_pair] at h ⊢
  have htoNat : ∀ m < 256, (Char.ofNat m).toNat = m := by decide +kernel
  rw [← htoNat _ (by omega : 16 * hexDigit c + hexDigit d < 256), ← h, htoNat n hn]

lemma percentDecode_cons_spelled {a b : ℕ} (ha : a < 10) (hb : b < 10)
    (h : percentDecode text = Char.ofNat (16 * a + b) :: left) :
    ∃ rest, percentDecode rest = left ∧ ∃ spelling ∈ spellingsOf a b, text = spelling ++ rest := by
  obtain ⟨rest, hrest, rfl | ⟨c, d, hc, hd, hx, rfl⟩⟩ := percentDecode_cons_inv h
  · exact ⟨rest, hrest, _, mem_cons_self, rfl⟩
  have hdigit : ∀ {c : Char}, isHex c → ∀ n < 10, hexDigit c = n → c = Char.ofNat (48 + n) :=
    fun {c} hc => forall_isHex (p := fun c => ∀ n < 10, hexDigit c = n → c = Char.ofNat (48 + n))
      (by decide) hc
  have hcode := natOfHex_of_ofNat hc hd (by omega) hx
  have hlt := hexDigit_lt hd
  rw [natOfHex_pair] at hcode
  refine ⟨rest, hrest, _, mem_cons_of_mem _ mem_cons_self, ?_⟩
  rw [hdigit hc a ha (by omega), hdigit hd b hb (by omega)]; rfl

lemma isSlashCode_iff : isSlashCode c d ↔
    (c = '2' ∧ (d = 'f' ∨ d = 'F')) ∨ (c = '5' ∧ (d = 'c' ∨ d = 'C')) := by
  constructor
  · intro h
    simp only [isSlashCode, isSlash, Bool.and_eq_true, Bool.or_eq_true, decide_eq_true_eq] at h
    obtain ⟨⟨hc, hd⟩, hslash⟩ := h
    have hlt := hexDigit_lt hd
    have hdigits : ∀ {c : Char}, isHex c → (hexDigit c = 2 → c = '2') ∧ (hexDigit c = 5 → c = '5') ∧
        (hexDigit c = 15 → c = 'f' ∨ c = 'F') ∧ (hexDigit c = 12 → c = 'c' ∨ c = 'C') :=
      fun {c} hc => forall_isHex (p := fun c => (hexDigit c = 2 → c = '2') ∧
        (hexDigit c = 5 → c = '5') ∧ (hexDigit c = 15 → c = 'f' ∨ c = 'F') ∧
        (hexDigit c = 12 → c = 'c' ∨ c = 'C')) (by decide) hc
    rcases hslash with hslash | hslash
    · have hcode := natOfHex_of_ofNat (n := 0x2F) hc hd (by decide) hslash.symm
      rw [natOfHex_pair] at hcode
      exact .inl ⟨(hdigits hc).1 (by omega), (hdigits hd).2.2.1 (by omega)⟩
    · have hcode := natOfHex_of_ofNat (n := 0x5C) hc hd (by decide) hslash.symm
      rw [natOfHex_pair] at hcode
      exact .inr ⟨(hdigits hc).2.1 (by omega), (hdigits hd).2.2.2 (by omega)⟩
  · rintro (⟨rfl, rfl | rfl⟩ | ⟨rfl, rfl | rfl⟩) <;> decide

lemma percentDecode_spelling {spelling : List Char} (h : spelling ∈ slashSpellings)
    (rest : List Char) : slashEscapes (spelling ++ rest) ≠ 0 ∨
      slashEscapes (percentDecode (spelling ++ rest)) ≠ 0 := by
  have hshown : ∀ c d, isSlashCode c d → ∀ after, slashEscapes ('%' :: c :: d :: after) ≠ 0 := by
    intro c d hcode after
    rw [slashEscapes, if_pos hcode]; exact Nat.succ_ne_zero _
  simp only [slashSpellings, sections, map_cons, map_nil, flatMap_cons, flatMap_nil, append_nil,
    cons_append, nil_append, mem_cons, not_mem_nil, or_false, flatten_cons, flatten_nil] at h
  repeat' obtain rfl | h := h
  all_goals first
    | exact .inl (hshown _ _ (by decide) _)
    | exact .inr (hshown _ _ (by decide) (percentDecode rest))

lemma spellings_of_code (h : isSlashCode c d) :
    ∃ a b a' b', (a < 10 ∧ b < 10 ∧ a' < 10 ∧ b' < 10) ∧
      c = Char.ofNat (16 * a + b) ∧ d = Char.ofNat (16 * a' + b') ∧
      ∀ percent ∈ spellingsOf 2 5, ∀ first ∈ spellingsOf a b, ∀ second ∈ spellingsOf a' b',
        percent ++ (first ++ second) ∈ slashSpellings := by
  rcases isSlashCode_iff.mp h with ⟨rfl, rfl | rfl⟩ | ⟨rfl, rfl | rfl⟩
  · exact ⟨3, 2, 6, 6, by decide, rfl, rfl, by decide⟩
  · exact ⟨3, 2, 4, 6, by decide, rfl, rfl, by decide⟩
  · exact ⟨3, 5, 6, 3, by decide, rfl, rfl, by decide⟩
  · exact ⟨3, 5, 4, 3, by decide, rfl, rfl, by decide⟩

/-- Two layers hide a slash exactly if one of its spellings stands in the text. -/
theorem shows_slash_iff : (slashEscapes text ≠ 0 ∨ slashEscapes (percentDecode text) ≠ 0) ↔
    ∃ spelling ∈ slashSpellings, spelling <:+: text := by
  constructor
  · rintro (hescaped | hdecoded)
    · obtain ⟨before, c, d, after, rfl, hcode⟩ := slashEscapes_ne_zero_iff.mp hescaped
      obtain ⟨a, b, a', b', -, rfl, rfl, hspelled⟩ := spellings_of_code hcode
      refine ⟨_, hspelled ['%'] mem_cons_self _ mem_cons_self _ mem_cons_self, before, after, ?_⟩
      rw [append_assoc]; rfl
    · obtain ⟨before, c, d, after, hsplit, hcode⟩ := slashEscapes_ne_zero_iff.mp hdecoded
      obtain ⟨start, rest, rfl, hrest⟩ := percentDecode_append_inv hsplit
      obtain ⟨a, b, a', b', hlt, rfl, rfl, hspelled⟩ := spellings_of_code hcode
      obtain ⟨ha, hb, ha', hb'⟩ := hlt
      obtain ⟨rest₁, h₁, percent, hpercent, rfl⟩ :=
        percentDecode_cons_spelled (a := 2) (b := 5) (by decide) (by decide) hrest
      obtain ⟨rest₂, h₂, first, hfirst, rfl⟩ := percentDecode_cons_spelled ha hb h₁
      obtain ⟨left, -, second, hsecond, rfl⟩ := percentDecode_cons_spelled ha' hb' h₂
      refine ⟨_, hspelled percent hpercent first hfirst second hsecond, start, left, ?_⟩
      simp only [append_assoc]
  · rintro ⟨spelling, hspelling, before, after, rfl⟩
    obtain ⟨rest, hrest⟩ : ∃ rest, spelling ++ after = '%' :: rest := by
      have hhead : ∀ spelling ∈ slashSpellings, spelling.head? = some '%' := by decide
      obtain ⟨left, rfl⟩ := head?_eq_some_iff.mp (hhead spelling hspelling)
      exact ⟨_, rfl⟩
    have hshows := percentDecode_spelling hspelling after
    rw [append_assoc, hrest, percentDecode_append]
    rw [hrest] at hshows
    exact hshows.imp slashEscapes_append slashEscapes_append

end Spellings
end NemoClaw.PercentText
