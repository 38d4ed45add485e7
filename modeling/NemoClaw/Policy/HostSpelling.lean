import NemoClaw.Policy.HostRedaction

/- Which spellings of an internal address are published.

What is proved:
  1. `canonicaliseHost_v4`, `canonicaliseHost_v6` — the stem of an address text: the
     text in lower case, or the quad of an IPv4-mapped one that is written dotted.
  2. `isInternalHost_v6_iff` — which lower-case texts are taken for internal.
  3. `hostStems_internal` — a spelling of an internal address is never published
     exactly when it is one that is recognised.

A group that is not zero has one spelling up to case, so the ranges told by the first
group are always recognised. Zero groups have many: the two addresses that are zero up
to the last bit and the IPv4-mapped ones are recognised in one form only.
-/
namespace NemoClaw

open Js AddressText List

/-- Unspecified, loopback, private, link-local or multicast. -/
def IsInternalV4 (values : List ℕ) : Prop :=
  match values with
  | [a, b, c, d] =>
    (a = 0 ∧ b = 0 ∧ c = 0 ∧ d = 0) ∨ a = 127 ∨ a = 10 ∨ (a = 172 ∧ 16 ≤ b ∧ b ≤ 31) ∨
      (a = 192 ∧ b = 168) ∨ (a = 169 ∧ b = 254) ∨ (224 ≤ a ∧ a ≤ 239)
  | _ => False

/-- The numbers of the quad that two groups stand for. -/
def quadOf (high low : ℕ) : List ℕ := [high / 256, high % 256, low / 256, low % 256]

/-- Link-local, unique-local or multicast, by the first group. -/
def IsInternalGroup (group : ℕ) : Prop :=
  (0xfe80 ≤ group ∧ group ≤ 0xfebf) ∨ (0xfc00 ≤ group ∧ group ≤ 0xfdff) ∨ 0xff00 ≤ group

/-- The unspecified address and the loopback address. -/
def IsZeroOrOne (groups : List ℕ) : Prop :=
  ∃ last, last ≤ 1 ∧ groups = List.replicate 7 0 ++ [last]

def IsMapped (groups : List ℕ) : Prop :=
  ∃ high low, groups = List.replicate 5 0 ++ [0xffff, high, low]

def IsInternalV6 (groups : List ℕ) : Prop :=
  IsZeroOrOne groups ∨ (∃ group, groups.head? = some group ∧ IsInternalGroup group) ∨
    ∃ high low, groups = List.replicate 5 0 ++ [0xffff, high, low] ∧
      IsInternalV4 (quadOf high low)

/-- A textual address literal. -/
inductive Spelling where
  | v4 (quad : Dotted)
  | v6 (text : V6Text)
  | bracketed (text : V6Text)

namespace Spelling

def text : Spelling → List Char
  | v4 quad => quad.text
  | v6 t => t.text
  | bracketed t => '[' :: t.text ++ [']']

/-- The literal denotes an internal address. -/
def IsInternal : Spelling → Prop
  | v4 quad => IsInternalV4 quad.values
  | v6 t => IsInternalV6 t.groups
  | bracketed t => IsInternalV6 t.groups

end Spelling

/-- Written `::`, `::1`, or `::` and a dotted quad. -/
def IsShort (t : V6Text) : Prop :=
  t.before = [] ∧ ∃ after, t.after = some after ∧
    (after = [] ∨ t.dotted = none ∧ ∃ h, after = [h] ∧ h.text = ['1'])

/-- The IPv6 texts that are recognised when they denote an internal address. -/
def RecognisedText (t : V6Text) : Prop :=
  (∃ group, t.groups.head? = some group ∧ IsInternalGroup group) ∨
    (IsMapped t.groups ∧ t.dotted.isSome) ∨ (IsZeroOrOne t.groups ∧ IsShort t)

def Recognised : Spelling → Prop
  | .v4 _ => True
  | .v6 t => RecognisedText t
  | .bracketed t => RecognisedText t

/-! ## The stem -/

lemma isPlainChar_of_isHex {c : Char} (h : isHex c) : isPlainChar c := by
  simp [isPlainChar, h]

variable (t : V6Text) (d : Dotted)

lemma isPlainChar_v6 : ∀ c ∈ t.text, isPlainChar c := by
  intro c hc
  rcases V6Text.mem_text hc with rfl | rfl | hhex
  · decide
  · decide
  · exact isPlainChar_of_isHex hhex

lemma isPlainChar_v4 : ∀ c ∈ d.text, isPlainChar c := by
  intro c hc
  rcases d.mem_text hc with rfl | hdigit
  · decide
  · exact isPlainChar_of_isHex (isHex_of_isDigit hdigit)

lemma v6_text_ne_nil : t.text ≠ [] := by
  intro h
  have hsplit := t.splitOn_text
  have hlength := t.three_le_length_pieces
  rw [← hsplit, h] at hlength; simp at hlength

lemma dropFinalDot_of_pieces {sep : Char} {parts : List (List Char)} (hsep : sep ≠ '.')
    (hlast : ∀ part ∈ parts.getLast?, part.getLast? ≠ some '.') :
    dropFinalDot ([sep].intercalate parts) = [sep].intercalate parts := by
  unfold dropFinalDot
  rw [if_neg]
  induction parts with
  | nil => simp
  | cons part rest ih =>
    cases rest with
    | nil => simpa using hlast part
    | cons next rest =>
    rw [intercalate_cons_cons]
    have hih := ih (by simpa using hlast)
    by_cases hempty : [sep].intercalate (next :: rest) = []
    · rw [hempty, append_nil, List.getLast?_append]; simpa using hsep
    rw [List.getLast?_append]
    cases hl : ([sep].intercalate (next :: rest)).getLast? with
    | none => exact absurd (List.getLast?_eq_none_iff.mp hl) hempty
    | some c => rw [hl] at hih; simpa using hih

lemma getLast?_v4 : d.text.getLast? ≠ some '.' := by
  have htext : d.text = (d.first.text ++ ['.'] ++ (d.second.text ++ ['.'] ++
      (d.third.text ++ ['.']))) ++ d.fourth.text := by
    unfold Dotted.text Dotted.octets; simp
  rw [htext, List.getLast?_append]
  cases hlast : d.fourth.text.getLast? with
  | none => exact absurd (List.getLast?_eq_none_iff.mp hlast) d.fourth.nonempty
  | some c =>
  have hdigit := d.fourth.digits c (mem_of_getLast? hlast)
  intro hdot
  cases hdot
  revert hdigit; decide

lemma dropFinalDot_v6 : dropFinalDot t.text = t.text := by
  refine dropFinalDot_of_pieces (by decide) fun piece hpiece => ?_
  rcases V6Text.mem_pieces (mem_of_getLast? hpiece) with rfl | ⟨h, -, rfl⟩ | ⟨d, -, rfl⟩
  · simp
  · intro hdot; exact h.not_mem_text (by decide) (mem_of_getLast? hdot)
  · exact getLast?_v4 d

lemma stripBracketsAndPort_v6 : stripBracketsAndPort t.text = t.text := by
  unfold stripBracketsAndPort
  split
  · next rest heq =>
    have hmem : '[' ∈ t.text := heq ▸ mem_cons_self
    rcases V6Text.mem_text hmem with h | h | h <;> exact absurd h (by decide)
  · split
    · next candidate port heq =>
      have hlength := t.three_le_length_pieces
      rw [← t.splitOn_text, heq] at hlength; simp at hlength
    · rfl

lemma stripBracketsAndPort_bracketed :
    stripBracketsAndPort ('[' :: t.text ++ [']']) = t.text := by
  unfold stripBracketsAndPort
  have hclose : ∀ c ∈ t.text, c ≠ ']' := by
    rintro c hc rfl
    rcases V6Text.mem_text hc with h | h | h <;> exact absurd h (by decide)
  simp only [cons_append]
  rw [if_pos (by simp), takeWhile_append_of_pos (by simpa using hclose)]; simp

lemma stripBracketsAndPort_v4 : stripBracketsAndPort d.text = d.text := by
  unfold stripBracketsAndPort
  split
  · next rest heq =>
    have hmem : '[' ∈ d.text := heq ▸ mem_cons_self
    exact absurd hmem (d.not_mem_text (by decide) (by decide))
  · rw [splitOn_of_notMem (d.not_mem_text (by decide) (by decide))]

lemma lowerText_v4 : lowerText d.text = d.text := by
  refine (map_congr_left fun c hc => ?_).trans (map_id _)
  rcases d.mem_text hc with rfl | hdigit
  · decide
  · exact lowerChar_of_isLowerHex (by simp [isLowerHex, hdigit])

lemma lowerText_lowercase {t : V6Text} (h : t.Lowercase) : lowerText t.text = t.text := by
  refine (map_congr_left fun c hc => ?_).trans (map_id _)
  rcases mem_intercalate hc with rfl | ⟨piece, hpiece, hc⟩
  · decide
  rcases V6Text.mem_pieces hpiece with rfl | ⟨g, hg, rfl⟩ | ⟨d, -, rfl⟩
  · cases hc
  · exact lowerChar_of_isLowerHex (h g hg c hc)
  · rcases d.mem_text hc with rfl | hdigit
    · decide
    · exact lowerChar_of_isLowerHex (by simp [isLowerHex, hdigit])

lemma mappedIPv4_v4 : mappedIPv4 d.text = none := by
  unfold mappedIPv4
  rw [splitOn_of_notMem (d.not_mem_text (by decide) (by decide))]; rfl

lemma not_forbidden {cs : List Char} (h : ∀ c ∈ cs, isPlainChar c) :
    (cs.any fun c => isJsSpace c || c ∈ ['/', '?', '#', '@', '\\', '!']) = false := by
  rw [any_eq_false]
  intro c hc
  obtain ⟨hspace, h1, h2, h3, h4, h5, h6⟩ := isPlainChar_facts (h c hc)
  simp [hspace, h1, h2, h3, h4, h5, h6]

theorem canonicaliseHost_v4 : canonicaliseHost (.ofList (Spelling.v4 d).text) = some d.text := by
  show canonicaliseHost (.ofList d.text) = some d.text
  have hplain := isPlainChar_v4 d
  have hne := d.text_ne_nil
  unfold canonicaliseHost normaliseIPv4MappedIPv6
  simp only
  rw [jsTrim_of_plain hplain, stripUrlSyntax_of_plain hplain, if_neg hne, lowerText_v4]
  have hdot : dropFinalDot d.text = d.text := by
    unfold dropFinalDot
    rw [if_neg (getLast?_v4 d)]
  rw [hdot, stripBracketsAndPort_v4, if_neg hne, lowerText_v4, mappedIPv4_v4]
  simp only [Option.getD_none]
  rw [if_neg hne, if_neg (by rw [not_forbidden hplain]; decide), if_pos (isIPv4Pattern_dotted d)]

def v6Stem (t : V6Text) : List Char := (mappedIPv4 t.lower.text).getD t.lower.text

lemma mappedIPv4_eq_some {value quad : List Char} (h : mappedIPv4 value = some quad) :
    isIPv4Pattern quad ∧ ∃ zeros,
      (value.splitOn ':').reverse = quad :: ['f', 'f', 'f', 'f'] :: zeros ∧
      ∀ z ∈ zeros, ∀ c ∈ z, c = '0' := by
  unfold mappedIPv4 at h
  split at h
  · next quad' marker zeros heq =>
    split at h
    · next hcond =>
      cases h
      obtain ⟨hpattern, rfl, hzeros⟩ := hcond
      exact ⟨hpattern, zeros, heq, by simpa [all_eq_true] using hzeros⟩
    · cases h
  · cases h

lemma isPlainChar_stem : ∀ c ∈ v6Stem t, isPlainChar c := by
  unfold v6Stem
  cases h : mappedIPv4 t.lower.text with
  | none => exact isPlainChar_v6 t.lower
  | some quad =>
  intro c hc
  rcases isIPv4Pattern_chars (mappedIPv4_eq_some h).1 c hc with rfl | hdigit
  · decide
  · exact isPlainChar_of_isHex (isHex_of_isDigit hdigit)

lemma colon_mem_text : ':' ∈ t.text := by
  by_contra hnone
  have hsplit := splitOn_of_notMem hnone
  rw [t.splitOn_text] at hsplit
  have hlength := t.three_le_length_pieces
  rw [hsplit] at hlength; simp at hlength

lemma canonicaliseHost_stripped {raw : List Char} {t : V6Text}
    (hplain : ∀ c ∈ raw, isPlainChar c) (hne : raw ≠ [])
    (hstrip : stripBracketsAndPort (dropFinalDot (lowerText raw)) = t.lower.text) :
    canonicaliseHost (.ofList raw) = some (v6Stem t) := by
  have hne' := v6_text_ne_nil t.lower
  unfold canonicaliseHost normaliseIPv4MappedIPv6
  simp only
  rw [jsTrim_of_plain hplain, stripUrlSyntax_of_plain hplain, if_neg hne, hstrip, if_neg hne',
    lowerText_lowercase t.lowercase_lower]
  have hforbidden := not_forbidden (isPlainChar_stem t)
  cases h : mappedIPv4 t.lower.text with
  | some quad =>
    have hstem : v6Stem t = quad := by
      unfold v6Stem
      rw [h]; rfl
    have hpattern := (mappedIPv4_eq_some h).1
    have hquad : quad ≠ [] := by
      rintro rfl
      revert hpattern; decide
    rw [hstem] at hforbidden ⊢
    simp only [Option.getD_some]
    rw [if_neg hquad, if_neg (by rw [hforbidden]; decide), if_pos hpattern]
  | none =>
    have hstem : v6Stem t = t.lower.text := by
      unfold v6Stem
      rw [h]; rfl
    have hcolon := colon_mem_text t.lower
    have hhex : (t.lower.text.all fun c => isLowerHex c || c == ':' || c == '.') := by
      rw [all_eq_true]
      intro c hc
      have hlower := lowerText_lowercase t.lowercase_lower
      rcases V6Text.mem_text hc with rfl | rfl | hhex
      · decide
      · decide
      have hsame : lowerChar c = c := by
        obtain ⟨i, hi, rfl⟩ := mem_iff_getElem.mp hc
        have := congrArg (fun l : List Char => l[i]?) hlower
        simpa [lowerText, hi] using this
      have := isLowerHex_lowerChar hhex
      rw [hsame] at this; simp [this]
    have hthree : 3 ≤ (t.lower.text.splitOn ':').length := by
      rw [V6Text.splitOn_text]; exact t.lower.three_le_length_pieces
    rw [hstem] at hforbidden ⊢
    simp only [Option.getD_none]
    rw [if_neg hne', if_neg (by rw [hforbidden]; decide),
      if_neg (by rw [not_isIPv4Pattern_of_colon hcolon]; decide), if_pos hcolon,
      if_pos ⟨hhex, .inr hthree⟩]

theorem canonicaliseHost_v6 :
    canonicaliseHost (.ofList (Spelling.v6 t).text) = some (v6Stem t) := by
  refine canonicaliseHost_stripped (isPlainChar_v6 t) (v6_text_ne_nil t) ?_
  show stripBracketsAndPort (dropFinalDot (t.text.map lowerChar)) = t.lower.text
  rw [← t.text_lower, dropFinalDot_v6, stripBracketsAndPort_v6]

lemma canonicaliseHost_bracketed :
    canonicaliseHost (.ofList (Spelling.bracketed t).text) = some (v6Stem t) := by
  refine canonicaliseHost_stripped (fun c hc => ?_) (by simp [Spelling.text]) ?_
  · simp only [Spelling.text, cons_append, mem_cons, mem_append,
      not_mem_nil, or_false] at hc
    rcases hc with rfl | hc | rfl
    · decide
    · exact isPlainChar_v6 t c hc
    · decide
  · have hlower : lowerText (Spelling.bracketed t).text = '[' :: t.lower.text ++ [']'] := by
      rw [t.text_lower]
      unfold lowerText Spelling.text
      have h1 : lowerChar '[' = '[' := by decide
      have h2 : lowerChar ']' = ']' := by decide
      simp [h1, h2]
    have hdot : dropFinalDot ('[' :: t.lower.text ++ [']']) = '[' :: t.lower.text ++ [']'] := by
      unfold dropFinalDot
      rw [if_neg (by rw [List.getLast?_concat]; decide)]
    rw [hlower, hdot, stripBracketsAndPort_bracketed]

lemma intercalate_cons_append {sep : Char} (part : List Char) (rest : List (List Char)) :
    ∃ more, [sep].intercalate (part :: rest) = part ++ more := by
  cases rest with
  | nil => exact ⟨[], by simp⟩
  | cons next rest => rw [intercalate_cons_cons, append_assoc]; exact ⟨_, rfl⟩

section Shape

variable {t : V6Text}

lemma after_of_before_nil (h : t.before = []) : ∃ after, t.after = some after := by
  have hfits := t.fits
  cases hafter : t.after with
  | some after => exact ⟨after, rfl⟩
  | none =>
    rw [hafter, h] at hfits
    revert hfits; cases t.dotted <;> simp

lemma pieces_of_before_nil (h : t.before = []) :
    ∃ after, t.after = some after ∧
      t.pieces = [] :: [] :: V6Text.side (V6Text.hexPieces after ++ t.tail) := by
  obtain ⟨after, hafter⟩ := after_of_before_nil h
  refine ⟨after, hafter, ?_⟩
  unfold V6Text.pieces
  rw [hafter, h]; rfl

lemma pieces_of_before_cons {g : Hextet} {rest : List Hextet} (h : t.before = g :: rest) :
    ∃ more, t.pieces = g.text :: more := by
  unfold V6Text.pieces
  rw [h]
  cases t.after with
  | none => exact ⟨_, rfl⟩
  | some after =>
    have hside : V6Text.side (V6Text.hexPieces (g :: rest)) = g.text :: V6Text.hexPieces rest := rfl
    rw [hside]; exact ⟨_, rfl⟩

lemma groups_head (t : V6Text) :
    (∃ g rest, t.before = g :: rest ∧ t.groups.head? = some g.value) ∨
      (t.before = [] ∧ t.groups.head? = some 0) := by
  cases hbefore : t.before with
  | cons g rest =>
    refine .inl ⟨g, rest, rfl, ?_⟩
    unfold V6Text.groups
    rw [hbefore]; rfl
  | nil =>
    refine .inr ⟨rfl, ?_⟩
    obtain ⟨after, hafter⟩ := after_of_before_nil hbefore
    have hfits := t.fits
    rw [hafter, hbefore] at hfits
    have hlength : ((t.dotted.map Dotted.groups).getD []).length =
        if t.dotted.isSome then 2 else 0 := by
      cases t.dotted <;> rfl
    unfold V6Text.groups
    simp only [hafter, hbefore, Option.getD_some, map_nil, nil_append, length_nil,
      length_append, length_map, hlength, Nat.zero_add]
    simp only [length_nil, Nat.zero_add] at hfits
    have hrun : 8 - (after.length + if t.dotted.isSome then 2 else 0) =
        7 - (after.length + if t.dotted.isSome then 2 else 0) + 1 := by omega
    rw [hrun, replicate_succ]; rfl

lemma mem_groups {g : Hextet} (h : g ∈ t.hextets) : g.value ∈ t.groups := by
  unfold V6Text.groups
  rcases mem_append.mp h with h | h
  · simp only [mem_append, mem_map]; exact .inl (.inl ⟨g, h, rfl⟩)
  · simp only [mem_append, mem_map]; exact .inr (.inl ⟨g, h, rfl⟩)

lemma isShort_lower : IsShort t.lower ↔ IsShort t := by
  constructor
  · rintro ⟨hbefore, after, hafter, hshort⟩
    refine ⟨by simpa [V6Text.lower] using hbefore, ?_⟩
    cases ha : t.after with
    | none => simp [V6Text.lower, ha] at hafter
    | some groups =>
    obtain rfl : groups.map Hextet.lower = after := by simpa [V6Text.lower, ha] using hafter
    refine ⟨groups, rfl, ?_⟩
    rcases hshort with hnil | ⟨hdotted, h, hone, htext⟩
    · exact .inl (by simpa using hnil)
    right
    refine ⟨hdotted, ?_⟩
    obtain ⟨g, rfl, rfl⟩ := map_eq_singleton_iff.mp hone
    refine ⟨g, rfl, ?_⟩
    obtain ⟨c, hc, hlower⟩ := map_eq_singleton_iff.mp (show g.text.map lowerChar = ['1'] from htext)
    rw [hc]
    have hhex := g.digits c (by rw [hc]; simp)
    rw [lowerChar_eq_one hhex hlower]
  · rintro ⟨hbefore, after, hafter, hshort⟩
    refine ⟨by simp [V6Text.lower, hbefore], after.map Hextet.lower,
      by simp [V6Text.lower, hafter], ?_⟩
    rcases hshort with rfl | ⟨hdotted, h, rfl, htext⟩
    · exact .inl rfl
    refine .inr ⟨hdotted, h.lower, rfl, ?_⟩
    show h.text.map lowerChar = ['1']
    rw [htext]; rfl

lemma recognisedText_lower : RecognisedText t.lower ↔ RecognisedText t := by
  unfold RecognisedText
  rw [t.groups_lower, isShort_lower]; rfl

end Shape

section Classifier

variable {t : V6Text}

lemma reserved_of_text : t.text ∉ reservedHosts.map String.toList := by
  have hforeign : ∀ host ∈ reservedHosts.map String.toList,
      host.any (fun c => !isPlainChar c) := by decide
  intro hmem
  obtain ⟨c, hc, hplain⟩ := any_eq_true.mp (hforeign _ hmem)
  rw [isPlainChar_v6 t c hc] at hplain; cases hplain

lemma suffix_of_text : (internalDnsSuffixes.any fun suffix =>
    decide (t.text = suffix.toList.drop 1) || suffix.toList.isSuffixOf t.text) = false := by
  have hforeign : ∀ suffix ∈ internalDnsSuffixes,
      (suffix.toList.drop 1).any (fun c => !isPlainChar c) := by decide
  rw [any_eq_false]
  intro suffix hsuffix
  obtain ⟨c, hc, hplain⟩ := any_eq_true.mp (hforeign suffix hsuffix)
  have habsent : c ∉ t.text := by
    intro hmem
    rw [isPlainChar_v6 t c hmem] at hplain; cases hplain
  simp only [Bool.or_eq_true, decide_eq_true_eq, isSuffixOf_iff_suffix, not_or]
  constructor
  · intro heq; exact habsent (heq ▸ hc)
  · intro hend; exact habsent (hend.subset (mem_of_mem_drop hc))

lemma isInternalHost_text : isInternalHost t.text = looksLikeInternalIPv6 t.text := by
  have hcolon := colon_mem_text t
  have hne : t.text ≠ [] := v6_text_ne_nil t
  have hquad : looksLikeInternalIPv4 t.text = false := by
    unfold looksLikeInternalIPv4
    simp only
    rw [not_isIPv4Pattern_of_colon hcolon]; rfl
  unfold isInternalHost
  rw [hquad, suffix_of_text]; simp [hne, reserved_of_text, hcolon]

lemma firstHextet_of_before_cons (hlower : t.Lowercase) {g : Hextet} {rest : List Hextet}
    (h : t.before = g :: rest) : firstHextet t.text = some g.text := by
  obtain ⟨more, hpieces⟩ := pieces_of_before_cons h
  obtain ⟨end', htext⟩ : ∃ end', t.text = g.text ++ end' := by
    unfold V6Text.text
    rw [hpieces]; exact intercalate_cons_append g.text more
  have hnot : ¬[':', ':'] <+: t.text := by
    intro hprefix'
    cases hg : g.text with
    | nil => exact g.nonempty hg
    | cons c cs =>
      rw [htext, hg, cons_append] at hprefix'
      obtain ⟨rfl, -⟩ := cons_prefix_cons.mp hprefix'
      exact g.not_mem_text (by decide) (hg ▸ mem_cons_self)
  have hmem : g ∈ t.hextets := by
    unfold V6Text.hextets
    rw [h]; simp
  unfold firstHextet
  simp only
  rw [if_neg hnot, t.splitOn_text, hpieces, headD_cons, if_pos]
  exact ⟨all_eq_true.mpr (hlower g hmem), length_pos_iff.mpr g.nonempty, g.short⟩

lemma looksLikeInternalIPv6_cons (hlower : t.Lowercase) {g : Hextet} {rest : List Hextet}
    (h : t.before = g :: rest) : looksLikeInternalIPv6 t.text = isInternalHead g.text := by
  have hfirst := firstHextet_of_before_cons hlower h
  have hnot : ¬[':', ':'] <+: t.text := by
    intro hprefix'
    unfold firstHextet at hfirst
    rw [if_pos hprefix'] at hfirst; cases hfirst
  have h1 : t.text ≠ [':', ':'] := fun heq => hnot (by rw [heq])
  have h2 : t.text ≠ [':', ':', '1'] := fun heq => hnot (by rw [heq]; exact ⟨['1'], rfl⟩)
  have h3 : [':', ':'].isPrefixOf t.text = false := by
    rw [← Bool.not_eq_true, isPrefixOf_iff_prefix]; exact hnot
  unfold looksLikeInternalIPv6
  simp only
  rw [lowerText_lowercase hlower, hfirst, h3]; simp [colon_mem_text t, h1, h2]

lemma text_of_before_nil {more : List (List Char)} (h : t.pieces = [] :: [] :: more)
    (hmore : more ≠ []) : t.text = ':' :: ':' :: [':'].intercalate more := by
  unfold V6Text.text
  rw [h, intercalate_cons_cons, intercalate_cons_of_ne_nil hmore]; rfl

lemma looksLikeInternalIPv6_nil (hlower : t.Lowercase) {more : List (List Char)}
    (h : t.pieces = [] :: [] :: more) (hmore : more ≠ []) :
    looksLikeInternalIPv6 t.text ↔ [':'].intercalate more = [] ∨
      [':'].intercalate more = ['1'] ∨ looksLikeInternalIPv4 ([':'].intercalate more) := by
  have htext := text_of_before_nil h hmore
  have hfirst : firstHextet t.text = none := by
    unfold firstHextet
    rw [if_pos (by rw [htext]; exact ⟨_, rfl⟩)]
  have hpattern : ∀ host, looksLikeInternalIPv4 host → isIPv4Pattern host := by
    intro host hhost
    unfold looksLikeInternalIPv4 at hhost
    simp only [Bool.and_eq_true] at hhost; exact hhost.1.1
  unfold looksLikeInternalIPv6
  simp only
  rw [lowerText_lowercase hlower, hfirst, htext]
  simp only [mem_cons, true_or, decide_true, Bool.true_and, Option.any_none, Bool.or_false,
    Bool.or_eq_true, Bool.and_eq_true, decide_eq_true_eq, List.cons.injEq, true_and,
    drop_succ_cons, drop_zero]
  constructor
  · rintro ((h0 | h1) | ⟨-, hquad⟩)
    · exact .inl h0
    · exact .inr (.inl h1)
    · exact .inr (.inr hquad)
  · rintro (h0 | h1 | hquad)
    · exact .inl (.inl h0)
    · exact .inl (.inr h1)
    · exact .inr ⟨⟨rfl, hpattern _ hquad⟩, hquad⟩

end Classifier

lemma isInternalHead_of_group {g : Hextet} (hlower : ∀ c ∈ g.text, isLowerHex c)
    (h : IsInternalGroup g.value) : isInternalHead g.text := by
  have hlarge : 4096 ≤ g.value := by
    rcases h with h | h | h <;> omega
  have htext := g.text_of_value hlower hlarge
  have hlt := g.value_lt
  unfold isInternalHead
  simp only [Bool.or_eq_true, Bool.and_eq_true, decide_eq_true_eq]
  rcases h with ⟨h1, h2⟩ | ⟨h1, h2⟩ | h
  · exact .inl (.inl (.inl ⟨h1, h2⟩))
  · have hfirst : g.value / 4096 = 15 := by omega
    have hsecond : g.value / 256 % 16 = 12 ∨ g.value / 256 % 16 = 13 := by omega
    rw [htext, hfirst]
    rcases hsecond with hsecond | hsecond <;> rw [hsecond]
    · exact .inl (.inl (.inr rfl))
    · exact .inl (.inr rfl)
  · have hfirst : g.value / 4096 = 15 := by omega
    have hsecond : g.value / 256 % 16 = 15 := by omega
    rw [htext, hfirst, hsecond]; exact .inr rfl

lemma not_isInternalHead_of_zero {g : Hextet} (h : g.value = 0) :
    isInternalHead g.text = false := by
  have hzeros := eq_zero_of_natOfHex g.digits h
  have hvalue : natOfHex g.text = 0 := h
  cases htext : g.text with
  | nil => exact absurd htext g.nonempty
  | cons c cs =>
  obtain rfl : c = '0' := hzeros c (by rw [htext]; simp)
  rw [htext] at hvalue
  unfold isInternalHead
  rw [hvalue]; rfl

lemma text_of_marker {g : Hextet} (hlower : ∀ c ∈ g.text, isLowerHex c)
    (h : g.value = 0xffff) : g.text = ['f', 'f', 'f', 'f'] := by
  rw [g.text_of_value hlower (by omega), h]; rfl

lemma groups_of_dotted {t : V6Text} {d : Dotted} (hd : t.dotted = some d) :
    ∃ run, t.groups = (t.before.map (·.value) ++ List.replicate run 0 ++
      (t.after.getD []).map (·.value)) ++ d.groups ∧ (t.after ≠ none → 1 ≤ run) := by
  have hfits := t.fits
  unfold V6Text.groups
  rw [hd]
  simp only [Option.map_some, Option.getD_some]
  refine ⟨8 - (t.before.length + ((t.after.getD []).length + 2)), ?_, fun hafter => ?_⟩
  · simp [Dotted.groups, append_assoc]
  cases ha : t.after with
  | none => exact absurd ha hafter
  | some after =>
  rw [ha, hd] at hfits
  simp only [Option.isSome_some, if_true] at hfits; simp only [Option.getD_some]; omega

/-- The text has pieces of zeros, the marker and the IPv4 address, in this order. -/
def EndsMapped (t : V6Text) (d : Dotted) : Prop :=
  ∃ zeros marker, t.pieces = zeros ++ [marker, d.text] ∧ marker = ['f', 'f', 'f', 'f'] ∧
    ∀ z ∈ zeros, ∀ c ∈ z, c = '0'

lemma mappedIPv4_of_pieces {t : V6Text} {d : Dotted} (h : EndsMapped t d) :
    mappedIPv4 t.text = some d.text := by
  obtain ⟨zeros, marker, hpieces, hmarker, hzeros⟩ := h
  have hreverse : (t.text.splitOn ':').reverse = d.text :: marker :: zeros.reverse := by
    rw [t.splitOn_text, hpieces, reverse_append]; rfl
  unfold mappedIPv4
  rw [hreverse]
  simp only
  have hall : zeros.reverse.all (·.all (· == '0')) := by
    simp only [all_eq_true, beq_iff_eq]
    exact fun z hz => hzeros z (mem_reverse.mp hz)
  rw [if_pos ⟨isIPv4Pattern_dotted d, hmarker, hall⟩]

/-- Of five zeros and the marker, the marker is last. -/
lemma marker_of_last {front : List ℕ} {g : Hextet}
    (h : front ++ [g.value] = List.replicate 5 0 ++ [0xffff]) :
    g.value = 0xffff ∧ ∀ n ∈ front, n = 0 := by
  obtain ⟨hfront, hg⟩ := append_inj' h rfl
  refine ⟨by simpa using hg, fun n hn => ?_⟩
  rw [hfront] at hn; exact (mem_replicate.mp hn).2

lemma tail_of_dotted {t : V6Text} {d : Dotted} (hd : t.dotted = some d) : t.tail = [d.text] := by
  unfold V6Text.tail
  rw [hd]; rfl

lemma endsMapped_full {t : V6Text} (hlower : t.Lowercase) {d : Dotted} (hd : t.dotted = some d)
    (hafter : t.after = none)
    (hsides : t.before.map (·.value) = List.replicate 5 0 ++ [0xffff]) : EndsMapped t d := by
  have hne : t.before ≠ [] := by
    intro hnil
    rw [hnil] at hsides; cases hsides
  obtain ⟨front, marker, hbefore⟩ := (eq_nil_or_concat t.before).resolve_left hne
  rw [concat_eq_append] at hbefore
  rw [hbefore, map_append] at hsides
  obtain ⟨hmarker, hfront⟩ := marker_of_last hsides
  have hmem : ∀ g ∈ front ++ [marker], g ∈ t.hextets := by
    intro g hg
    unfold V6Text.hextets
    rw [hbefore]; exact mem_append_left _ hg
  refine ⟨V6Text.hexPieces front, marker.text, ?_, ?_, ?_⟩
  · unfold V6Text.pieces
    rw [hafter, tail_of_dotted hd, hbefore]; simp [V6Text.hexPieces]
  · exact text_of_marker (hlower marker (hmem marker (by simp))) hmarker
  · intro z hz
    obtain ⟨g, hg, rfl⟩ := mem_map.mp hz
    exact eq_zero_of_natOfHex g.digits (hfront _ (mem_map_of_mem hg))

lemma endsMapped_compressed {t : V6Text} (hlower : t.Lowercase) {d : Dotted}
    (hd : t.dotted = some d) {after : List Hextet} (hafter : t.after = some after) {run : ℕ}
    (hrun : 1 ≤ run) (hsides : t.before.map (·.value) ++ List.replicate run 0 ++
      after.map (·.value) = List.replicate 5 0 ++ [0xffff]) : EndsMapped t d := by
  have hne : after ≠ [] := by
    rintro rfl
    -- the run would put a zero where the marker is
    obtain ⟨k, rfl⟩ : ∃ k, run = k + 1 := ⟨run - 1, by omega⟩
    rw [map_nil, append_nil, replicate_succ', ← append_assoc] at hsides
    obtain ⟨-, hlast⟩ := append_inj' hsides rfl; simp at hlast
  obtain ⟨front, marker, hfront⟩ := (eq_nil_or_concat after).resolve_left hne
  rw [concat_eq_append] at hfront
  rw [hfront, map_append, ← append_assoc] at hsides
  obtain ⟨hmarker, hzeros⟩ := marker_of_last hsides
  have hmem : marker ∈ t.hextets := by
    unfold V6Text.hextets
    rw [hafter, Option.getD_some, hfront]; simp
  have hzero : ∀ g : Hextet, g ∈ t.before ∨ g ∈ front → ∀ c ∈ g.text, c = '0' := by
    intro g hg
    refine eq_zero_of_natOfHex g.digits (hzeros _ ?_)
    simp only [mem_append, mem_map]
    rcases hg with hg | hg
    · exact .inl (.inl ⟨g, hg, rfl⟩)
    · exact .inr ⟨g, hg, rfl⟩
  refine ⟨V6Text.side (V6Text.hexPieces t.before) ++ [[]] ++ V6Text.hexPieces front,
    marker.text, ?_, ?_, ?_⟩
  · have hside : V6Text.side (V6Text.hexPieces after ++ t.tail) =
        V6Text.hexPieces after ++ t.tail := by
      unfold V6Text.side
      rw [if_neg (by rw [tail_of_dotted hd]; simp)]
    unfold V6Text.pieces
    rw [hafter]
    simp only
    rw [hside, tail_of_dotted hd, hfront]; simp [V6Text.hexPieces]
  · exact text_of_marker (hlower marker hmem) hmarker
  · intro z hz c hc
    rcases mem_append.mp hz with hz | hz
    · rcases mem_append.mp hz with hz | hz
      · unfold V6Text.side at hz
        split at hz
        · obtain rfl := mem_singleton.mp hz; cases hc
        obtain ⟨g, hg, rfl⟩ := mem_map.mp hz
        exact hzero g (.inl hg) c hc
      · obtain rfl := mem_singleton.mp hz; cases hc
    · obtain ⟨g, hg, rfl⟩ := mem_map.mp hz
      exact hzero g (.inr hg) c hc

lemma mappedIPv4_of_mapped {t : V6Text} (hlower : t.Lowercase) (h : IsMapped t.groups)
    {d : Dotted} (hd : t.dotted = some d) : mappedIPv4 t.text = some d.text := by
  obtain ⟨high, low, hgroups⟩ := h
  obtain ⟨run, hsplit, hrun⟩ := groups_of_dotted hd
  have hsides : t.before.map (·.value) ++ List.replicate run 0 ++
      (t.after.getD []).map (·.value) = List.replicate 5 0 ++ [0xffff] := by
    have hboth : (t.before.map (·.value) ++ List.replicate run 0 ++
        (t.after.getD []).map (·.value)) ++ d.groups =
          (List.replicate 5 0 ++ [0xffff]) ++ [high, low] := by
      rw [← hsplit, hgroups]; rfl
    exact (append_inj' hboth (by simp [Dotted.groups])).1
  refine mappedIPv4_of_pieces ?_
  cases hafter : t.after with
  | none =>
    have hrun0 : run = 0 := by
      have hlength := congrArg List.length hsides
      have hfits := t.fits
      rw [hafter, hd] at hfits
      rw [hafter] at hlength
      simp only [Option.isSome_some, if_true] at hfits; simp at hlength; omega
    rw [hafter, hrun0] at hsides
    refine endsMapped_full hlower hd hafter ?_
    simpa using hsides
  | some after =>
    rw [hafter] at hsides
    exact endsMapped_compressed hlower hd hafter (hrun (by rw [hafter]; simp)) hsides

lemma isInternalQuad_of_internal {values : List ℕ} (h : IsInternalV4 values) :
    isInternalQuad values := by
  unfold IsInternalV4 at h
  split at h
  · next a b c d =>
    rcases h with h | h | h | h | h | h | h <;> simp [isInternalQuad, h]
  · exact h.elim

lemma looksLikeInternalIPv4_dotted {d : Dotted} (h : isInternalQuad d.values) :
    looksLikeInternalIPv4 d.text := by
  have hparsed : (d.text.splitOn '.').map natOfDigits = d.values := by
    rw [d.splitOn_text, map_map]; rfl
  have hbounded : (d.values.all fun n => decide (n ≤ 255)) := by
    rw [all_eq_true]
    intro n hn
    obtain ⟨o, -, rfl⟩ := mem_map.mp hn; exact decide_eq_true o.bounded
  unfold looksLikeInternalIPv4
  simp only
  rw [hparsed, isIPv4Pattern_dotted, hbounded, h]; rfl

lemma isInternalHost_of_quad {host : List Char} (h : looksLikeInternalIPv4 host) :
    isInternalHost host := by
  have hne : host ≠ [] := by
    rintro rfl
    revert h; decide
  unfold isInternalHost; simp [hne, h]

lemma isInternalHost_dotted {d : Dotted} (h : IsInternalV4 d.values) :
    isInternalHost d.text :=
  isInternalHost_of_quad (looksLikeInternalIPv4_dotted (isInternalQuad_of_internal h))

lemma quadOf_groups {d : Dotted} {high low : ℕ} (h : d.groups = [high, low]) :
    quadOf high low = d.values := by
  have hsecond := d.second.bounded
  have hfourth := d.fourth.bounded
  change d.second.value ≤ 255 at hsecond
  change d.fourth.value ≤ 255 at hfourth
  unfold Dotted.groups at h
  obtain ⟨rfl, rfl⟩ : 256 * d.first.value + d.second.value = high ∧
      256 * d.third.value + d.fourth.value = low := by simpa using h
  unfold quadOf Dotted.values Dotted.octets
  simp only [map_cons, map_nil, List.cons.injEq, and_true]; omega

lemma isMapped_not_zeroOrOne {groups : List ℕ} (h : IsMapped groups) : ¬IsZeroOrOne groups := by
  obtain ⟨high, low, rfl⟩ := h
  rintro ⟨last, -, hlast⟩; simp [List.replicate] at hlast

lemma head_of_isMapped {groups : List ℕ} (h : IsMapped groups) : groups.head? = some 0 := by
  obtain ⟨high, low, rfl⟩ := h; rfl

lemma head_of_isZeroOrOne {groups : List ℕ} (h : IsZeroOrOne groups) :
    groups.head? = some 0 := by
  obtain ⟨last, -, rfl⟩ := h; rfl

lemma not_isInternalGroup_zero : ¬IsInternalGroup 0 := by
  unfold IsInternalGroup; omega

lemma isInternalV4_of_mapped {t : V6Text} {d : Dotted} (hd : t.dotted = some d)
    (hmapped : IsMapped t.groups) (h : IsInternalV6 t.groups) : IsInternalV4 d.values := by
  rcases h with hzero | ⟨group, hhead, hgroup⟩ | ⟨high, low, hgroups, hquad⟩
  · exact absurd hzero (isMapped_not_zeroOrOne hmapped)
  · rw [head_of_isMapped hmapped] at hhead
    cases hhead; exact absurd hgroup not_isInternalGroup_zero
  · obtain ⟨run, hsplit, -⟩ := groups_of_dotted hd
    have hboth : (t.before.map (·.value) ++ List.replicate run 0 ++
        (t.after.getD []).map (·.value)) ++ d.groups =
          (List.replicate 5 0 ++ [0xffff]) ++ [high, low] := by
      rw [← hsplit, hgroups]; rfl
    have hlast := (append_inj' hboth (by simp [Dotted.groups])).2
    rwa [quadOf_groups hlast] at hquad

lemma natOfHex_zeros {cs : List Char} (h : ∀ c ∈ cs, c = '0') : natOfHex cs = 0 := by
  induction cs with
  | nil => rfl
  | cons c cs ih =>
    rw [natOfHex_cons, ih fun d hd => h d (mem_cons_of_mem _ hd), h c mem_cons_self]
    rfl

section Lowercase

variable {t : V6Text}

lemma mappedIPv4_of_head {g : Hextet} {rest : List Hextet} (h : t.before = g :: rest)
    (hvalue : g.value ≠ 0) : mappedIPv4 t.text = none := by
  by_contra hsome
  obtain ⟨quad, hquad⟩ := Option.ne_none_iff_exists'.mp hsome
  obtain ⟨-, zeros, hreverse, hzeros⟩ := mappedIPv4_eq_some hquad
  obtain ⟨more, hpieces⟩ := pieces_of_before_cons h
  have hlength := t.three_le_length_pieces
  rw [t.splitOn_text] at hreverse
  have hforward : t.pieces = zeros.reverse ++ [['f', 'f', 'f', 'f'], quad] := by
    rw [← reverse_reverse t.pieces, hreverse]; simp
  have hmem : g.text ∈ zeros := by
    cases hz : zeros.reverse with
    | nil => rw [hforward, hz] at hlength; simp at hlength
    | cons z zs =>
      rw [hforward, hz, cons_append] at hpieces
      obtain ⟨rfl, -⟩ := cons.inj hpieces
      exact mem_reverse.mp (hz ▸ mem_cons_self)
  exact hvalue (natOfHex_zeros (hzeros g.text hmem))

lemma pieces_of_isShort (h : IsShort t) : ∃ piece, t.pieces = [[], [], piece] ∧
    (piece = [] ∨ piece = ['1'] ∨ ∃ d, t.dotted = some d ∧ piece = d.text ∧
      t.groups = List.replicate 6 0 ++ d.groups) := by
  obtain ⟨hbefore, after, hafter, hshort⟩ := h
  have hpieces : t.pieces = [] :: [] :: V6Text.side (V6Text.hexPieces after ++ t.tail) := by
    obtain ⟨after', hafter', hpieces⟩ := pieces_of_before_nil hbefore
    rw [hafter] at hafter'
    cases hafter'; exact hpieces
  rw [hpieces]
  unfold V6Text.tail
  rcases hshort with rfl | ⟨hdotted, g, rfl, htext⟩
  · cases hd : t.dotted with
    | none => exact ⟨[], rfl, .inl rfl⟩
    | some d =>
      refine ⟨d.text, rfl, .inr (.inr ⟨d, rfl, rfl, ?_⟩)⟩
      unfold V6Text.groups
      rw [hbefore, hafter, hd]; rfl
  · rw [hdotted]
    refine ⟨['1'], ?_, .inr (.inl rfl)⟩
    simp [V6Text.hexPieces, V6Text.side, htext]

lemma mappedIPv4_of_isShort (h : IsShort t) : mappedIPv4 t.text = none := by
  obtain ⟨piece, hpieces, -⟩ := pieces_of_isShort h
  unfold mappedIPv4
  rw [t.splitOn_text, hpieces]; simp

lemma isInternalHost_of_isShort (hlower : t.Lowercase) (h : IsShort t)
    (hzero : IsZeroOrOne t.groups) : isInternalHost t.text := by
  obtain ⟨piece, hpieces, hpiece⟩ := pieces_of_isShort h
  rw [isInternalHost_text, looksLikeInternalIPv6_nil hlower hpieces (by simp),
    intercalate_singleton]
  rcases hpiece with rfl | rfl | ⟨d, -, rfl, hgroups⟩
  · exact .inl rfl
  · exact .inr (.inl rfl)
  right; right
  apply looksLikeInternalIPv4_dotted
  obtain ⟨last, -, hlast⟩ := hzero
  rw [hgroups] at hlast
  have hfirst : d.first.value = 0 := by
    simp only [List.replicate, Dotted.groups, cons_append, nil_append, List.cons.injEq,
      true_and] at hlast
    omega
  simp [isInternalQuad, Dotted.values, Dotted.octets, hfirst]

lemma not_isMapped_of_isShort (h : IsShort t) : ¬IsMapped t.groups := by
  rintro ⟨high, low, hgroups⟩
  have hsixth : t.groups[5]? = some 0xffff := by
    rw [hgroups]; rfl
  obtain ⟨hbefore, after, hafter, hshort⟩ := h
  unfold V6Text.groups at hsixth
  rw [hbefore, hafter] at hsixth
  rcases hshort with rfl | ⟨hdotted, g, rfl, -⟩
  · cases hd : t.dotted with
    | none => simp [hd] at hsixth
    | some d => simp [hd, Dotted.groups] at hsixth
  · simp [hdotted] at hsixth

/-- What is matched as a mapped address is written with a quad and holds the marker. -/
lemma dotted_of_mappedIPv4 {quad : List Char} (h : mappedIPv4 t.text = some quad) :
    t.dotted.isSome ∧ 0xffff ∈ t.groups := by
  obtain ⟨hpattern, zeros, hreverse, -⟩ := mappedIPv4_eq_some h
  rw [t.splitOn_text] at hreverse
  have hmem : ∀ piece ∈ quad :: ['f', 'f', 'f', 'f'] :: zeros, piece ∈ t.pieces := by
    intro piece hpiece
    rw [← hreverse] at hpiece; exact mem_reverse.mp hpiece
  constructor
  · rcases V6Text.mem_pieces (hmem quad (by simp)) with rfl | ⟨g, -, rfl⟩ | ⟨d, hd, -⟩
    · exact absurd hpattern (by decide)
    · rw [not_isIPv4Pattern_of_dotless (g.not_mem_text (by decide))] at hpattern
      cases hpattern
    · rw [hd]; rfl
  · rcases V6Text.mem_pieces (hmem ['f', 'f', 'f', 'f'] (by simp)) with hnil | ⟨g, hg, htext⟩ |
      ⟨d, -, htext⟩
    · cases hnil
    · have hvalue : g.value = 0xffff := by
        unfold Hextet.value
        rw [← htext]; rfl
      exact hvalue ▸ mem_groups hg
    · have hquad := isIPv4Pattern_dotted d
      rw [← htext] at hquad; exact absurd hquad (by decide)

lemma isShort_of_internal (hlower : t.Lowercase) (hbefore : t.before = [])
    (h : isInternalHost t.text) : IsShort t := by
  obtain ⟨after, hafter, hpieces⟩ := pieces_of_before_nil hbefore
  have hside := V6Text.length_side (V6Text.hexPieces after ++ t.tail)
  have hne : V6Text.side (V6Text.hexPieces after ++ t.tail) ≠ [] := length_pos_iff.mp hside
  rw [isInternalHost_text, looksLikeInternalIPv6_nil hlower hpieces hne] at h
  -- what follows the two colons is a single piece
  obtain ⟨piece, hpiece, hone⟩ : ∃ piece, (piece = [] ∨ piece = ['1'] ∨
      isIPv4Pattern piece) ∧ V6Text.side (V6Text.hexPieces after ++ t.tail) = [piece] := by
    refine ⟨[':'].intercalate (V6Text.side (V6Text.hexPieces after ++ t.tail)), ?_, ?_⟩
    · rcases h with h | h | h
      · exact .inl h
      · exact .inr (.inl h)
      · unfold looksLikeInternalIPv4 at h
        simp only [Bool.and_eq_true] at h; exact .inr (.inr h.1.1)
    · have hcolon : ':' ∉ [':'].intercalate (V6Text.side (V6Text.hexPieces after ++ t.tail)) := by
        rcases h with h | h | h
        · simp [h]
        · simp [h]
        intro hmem
        unfold looksLikeInternalIPv4 at h
        simp only at h
        rw [not_isIPv4Pattern_of_colon hmem] at h; cases h
      have hparts : ([':'].intercalate (V6Text.side (V6Text.hexPieces after ++ t.tail))).splitOn ':' =
          V6Text.side (V6Text.hexPieces after ++ t.tail) := by
        refine splitOn_intercalate ':' (fun part hpart => ?_) hne
        exact V6Text.colon_notMem_pieces (t := t) (by rw [hpieces]; simp [hpart])
      exact hparts.symm.trans (splitOn_of_notMem hcolon)
  refine ⟨hbefore, after, hafter, ?_⟩
  unfold V6Text.side at hone
  split at hone
  · next hnil => exact .inl (map_eq_nil_iff.mp (append_eq_nil_iff.mp hnil).1)
  cases hgroups : after with
  | nil => exact .inl rfl
  | cons g rest =>
  rw [hgroups] at hone
  simp only [V6Text.hexPieces, map_cons, cons_append, List.cons.injEq] at hone
  obtain ⟨rfl, hrest⟩ := hone
  obtain ⟨hrest, htail⟩ := append_eq_nil_iff.mp hrest
  obtain rfl := map_eq_nil_iff.mp hrest
  right
  constructor
  · unfold V6Text.tail at htail; simpa using htail
  refine ⟨g, rfl, ?_⟩
  rcases hpiece with hnil | hone | hquad
  · exact absurd hnil g.nonempty
  · exact hone
  · rw [not_isIPv4Pattern_of_dotless (g.not_mem_text (by decide))] at hquad; cases hquad

theorem isInternalHost_v6_iff (hlower : t.Lowercase) (h : IsInternalV6 t.groups) :
    isInternalHost ((mappedIPv4 t.text).getD t.text) ↔ RecognisedText t := by
  constructor
  · intro hinternal
    cases hmapped : mappedIPv4 t.text with
    | some quad =>
      obtain ⟨hdotted, hmarker⟩ := dotted_of_mappedIPv4 hmapped
      rcases h with ⟨last, hlast, hgroups⟩ | hhead | ⟨high, low, hgroups, -⟩
      · rw [hgroups] at hmarker; simp at hmarker; omega
      · exact .inl hhead
      · exact .inr (.inl ⟨⟨high, low, hgroups⟩, hdotted⟩)
    | none =>
      rw [hmapped, Option.getD_none] at hinternal
      rcases groups_head t with ⟨g, rest, hbefore, hhead⟩ | ⟨hbefore, -⟩
      · rw [isInternalHost_text, looksLikeInternalIPv6_cons hlower hbefore] at hinternal
        have hvalue : t.groups.head? ≠ some 0 := by
          intro hzero
          rw [hhead] at hzero
          rw [not_isInternalHead_of_zero (Option.some.inj hzero)] at hinternal
          cases hinternal
        rcases h with hzero | hgroup | ⟨high, low, hgroups, -⟩
        · exact absurd (head_of_isZeroOrOne hzero) hvalue
        · exact .inl hgroup
        · exact absurd (head_of_isMapped ⟨high, low, hgroups⟩) hvalue
      · have hshort := isShort_of_internal hlower hbefore hinternal
        rcases h with hzero | hgroup | ⟨high, low, hgroups, -⟩
        · exact .inr (.inr ⟨hzero, hshort⟩)
        · exact .inl hgroup
        · exact absurd ⟨high, low, hgroups⟩ (not_isMapped_of_isShort hshort)
  · rintro (⟨group, hhead, hgroup⟩ | ⟨hmapped, hdotted⟩ | ⟨hzero, hshort⟩)
    · rcases groups_head t with ⟨g, rest, hbefore, hfirst⟩ | ⟨-, hfirst⟩
      · rw [hfirst] at hhead
        cases hhead
        have hvalue : g.value ≠ 0 := by
          intro hzero
          rw [hzero] at hgroup; exact not_isInternalGroup_zero hgroup
        have hmem : g ∈ t.hextets := by
          unfold V6Text.hextets
          rw [hbefore]; simp
        rw [mappedIPv4_of_head hbefore hvalue, Option.getD_none, isInternalHost_text,
          looksLikeInternalIPv6_cons hlower hbefore]
        exact isInternalHead_of_group (hlower g hmem) hgroup
      · rw [hfirst] at hhead
        cases hhead; exact absurd hgroup not_isInternalGroup_zero
    · obtain ⟨d, hd⟩ := Option.isSome_iff_exists.mp hdotted
      rw [mappedIPv4_of_mapped hlower hmapped hd, Option.getD_some]
      exact isInternalHost_dotted (isInternalV4_of_mapped hd hmapped h)
    · rw [mappedIPv4_of_isShort hshort, Option.getD_none]
      exact isInternalHost_of_isShort hlower hshort hzero

end Lowercase

def Spelling.stem : Spelling → List Char
  | v4 quad => quad.text
  | v6 t => v6Stem t
  | bracketed t => v6Stem t

lemma canonicaliseHost_spelling (a : Spelling) :
    canonicaliseHost (.ofList a.text) = some a.stem := by
  cases a with
  | v4 quad => exact canonicaliseHost_v4 quad
  | v6 t => exact canonicaliseHost_v6 t
  | bracketed t => exact canonicaliseHost_bracketed t

lemma isInternalHost_stem_iff {a : Spelling} (h : a.IsInternal) :
    isInternalHost a.stem ↔ Recognised a := by
  have hv6 : ∀ t : V6Text, IsInternalV6 t.groups →
      (isInternalHost (v6Stem t) ↔ RecognisedText t) := by
    intro t ht
    rw [← t.groups_lower] at ht
    exact (isInternalHost_v6_iff t.lowercase_lower ht).trans recognisedText_lower
  cases a with
  | v4 quad => exact iff_of_true (isInternalHost_dotted h) trivial
  | v6 t => exact hv6 t h
  | bracketed t => exact hv6 t h

def Publishes (rawHosts : List String) (raw : String) : Prop :=
  ∃ stem, canonicaliseHost raw = some stem ∧
    String.ofList stem ∈ (hostStemsFromEndpoints rawHosts).published

lemma mem_published {rawHosts : List String} {stem : String} :
    stem ∈ (hostStemsFromEndpoints rawHosts).published ↔
      ∃ raw ∈ rawHosts, publicStem raw = some stem := by
  show stem ∈ (uniq (rawHosts.filterMap publicStem)).insertionSort (· ≤ ·) ↔ _
  rw [mem_insertionSort, mem_uniq, mem_filterMap]

lemma publicStem_eq_some {raw stem : String} :
    publicStem raw = some stem ↔ ∃ canonical, canonicaliseHost raw = some canonical ∧
      isInternalHost canonical = false ∧ String.ofList canonical = stem := by
  unfold publicStem
  cases hcanonical : canonicaliseHost raw with
  | none => simp
  | some canonical => cases hinternal : isInternalHost canonical <;> simp [Option.filter, hinternal]

lemma publishes_iff {raw : String} {stem : List Char} (h : canonicaliseHost raw = some stem) :
    (∃ rawHosts, Publishes rawHosts raw) ↔ isInternalHost stem = false := by
  constructor
  · rintro ⟨rawHosts, stem', hstem, hmem⟩
    rw [h] at hstem
    cases hstem
    obtain ⟨other, -, hother⟩ := mem_published.mp hmem
    obtain ⟨canonical, -, hpublic, hsame⟩ := publicStem_eq_some.mp hother
    rwa [String.ofList_inj.mp hsame] at hpublic
  · intro hpublic
    refine ⟨[raw], stem, h, mem_published.mpr ⟨raw, by simp, ?_⟩⟩
    exact publicStem_eq_some.mpr ⟨stem, h, hpublic, rfl⟩

/-- An address text that denotes an internal address is kept out of every published list
exactly when it is one of the recognised ones. -/
theorem hostStems_internal (a : Spelling) (h : a.IsInternal) :
    (∀ rawHosts, ¬Publishes rawHosts (.ofList a.text)) ↔ Recognised a := by
  rw [← isInternalHost_stem_iff h, ← not_exists, publishes_iff (canonicaliseHost_spelling a)]
  simp

lemma digits_singleton {c : Char} (h : isHex c) : ∀ d ∈ [c], isHex d := by
  intro d hd; rwa [mem_singleton.mp hd]

def zeroGroup : Hextet := ⟨['0'], by decide, by decide, digits_singleton (by decide)⟩

def oneGroup : Hextet := ⟨['1'], by decide, by decide, digits_singleton (by decide)⟩

/-- The loopback address, `::1`. -/
def loopbackShort : V6Text := ⟨[], some [oneGroup], none, by decide⟩

/-- The loopback address, `0:0:0:0:0:0:0:1`. -/
def loopbackInFull : V6Text := ⟨List.replicate 7 zeroGroup ++ [oneGroup], none, none, by decide⟩

theorem hostStems_internal_short : (Spelling.v6 loopbackShort).IsInternal ∧
    ∀ rawHosts, ¬Publishes rawHosts "::1" := by
  have hinternal : (Spelling.v6 loopbackShort).IsInternal := .inl ⟨1, by decide, by decide⟩
  refine ⟨hinternal, (hostStems_internal (.v6 loopbackShort) hinternal).mpr ?_⟩
  exact .inr (.inr ⟨⟨1, by decide, by decide⟩, rfl, [oneGroup], rfl, .inr ⟨rfl, oneGroup, rfl, rfl⟩⟩)

/-- The same address in full is told to the agent. -/
theorem hostStems_internal_inFull : (Spelling.v6 loopbackInFull).IsInternal ∧
    String.ofList (Spelling.v6 loopbackInFull).text = "0:0:0:0:0:0:0:1" ∧
    (hostStemsFromEndpoints ["0:0:0:0:0:0:0:1"]).published = ["0:0:0:0:0:0:0:1"] ∧
    ¬∀ rawHosts, ¬Publishes rawHosts "0:0:0:0:0:0:0:1" := by
  have hpublished : (hostStemsFromEndpoints ["0:0:0:0:0:0:0:1"]).published =
      ["0:0:0:0:0:0:0:1"] := by decide +kernel
  refine ⟨.inl ⟨1, by decide, by decide⟩, by decide +kernel, hpublished, fun hnever => ?_⟩
  refine hnever ["0:0:0:0:0:0:0:1"] ⟨"0:0:0:0:0:0:0:1".toList, by decide +kernel, ?_⟩
  rw [hpublished]; decide

end NemoClaw
