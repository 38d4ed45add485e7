import Mathlib.Data.List.TakeWhile
import NemoClaw.Security.CredentialFilter

/- What a sanitised configuration still holds.

A value of a document has a place: the root, a property, or an element of an array after
another one. Each value of the stripped document is what the value at its place became
there, so what holds of a document holds of each place by itself. Two kinds of values
are not looked at: a document that is a text, and a value after the flag of a credential
that is neither a text nor null.
-/
namespace NemoClaw.Security

open Js Js.Json List

lemma isSafePlaceholderText_placeholder : isSafePlaceholderText credentialPlaceholder := by
  unfold isSafePlaceholderText safeCredentialPlaceholderLiterals; simp

/-- A text that a sanitised document may hold. -/
def IsClear (value : String) : Prop :=
  isSafePlaceholderText value ∨
    (isInlineCredential value ∧ isSafePlaceholderText (afterEq value)) ∨
    valueLooksLikeSecret value = false

lemma placeholder_clear : IsClear credentialPlaceholder :=
  .inl isSafePlaceholderText_placeholder

lemma scrubText_clear (value : String) : IsClear (scrubText value) := by
  unfold scrubText
  split
  · next h => exact .inl h
  · split
    · exact placeholder_clear
    · next h => exact .inr (.inr (by simpa using h))

lemma scrubText_scrubText (value : String) : scrubText (scrubText value) = scrubText value := by
  unfold scrubText
  split
  · rfl
  · split
    · rw [if_pos isSafePlaceholderText_placeholder]
    · rfl

lemma toList_inline (before rest : String) :
    (before ++ "=" ++ rest).toList = before.toList ++ '=' :: rest.toList := by
  simp [String.toList_append]

lemma ne_eq_of_notMem {before : String} (h : '=' ∉ before.toList) :
    ∀ c ∈ before.toList, decide (c ≠ '=') := by
  intro c hc
  simp only [decide_eq_true_eq]
  intro heq; exact h (heq ▸ hc)

lemma beforeEq_append {before rest : String} (h : '=' ∉ before.toList) :
    beforeEq (before ++ "=" ++ rest) = before := by
  unfold beforeEq
  rw [toList_inline, takeWhile_append_of_pos (ne_eq_of_notMem h)]; simp

lemma afterEq_append {before rest : String} (h : '=' ∉ before.toList) :
    afterEq (before ++ "=" ++ rest) = rest := by
  unfold afterEq
  rw [toList_inline, dropWhile_append_of_pos (ne_eq_of_notMem h)]; simp

lemma eq_notMem_beforeEq (value : String) : '=' ∉ (beforeEq value).toList := by
  unfold beforeEq
  rw [String.toList_ofList]
  intro h
  have hne := mem_takeWhile_imp h; simp at hne

lemma startsWithDash_iff {value : String} :
    startsWithDash value ↔ ∃ rest, value.toList = '-' :: rest := by
  unfold startsWithDash
  cases h : value.toList with
  | nil => simp
  | cons c rest => simp [eq_comm]

/-- The flag stays in front of the placeholder. -/
lemma isInlineCredential_replaced {value : String} (h : isInlineCredential value) :
    isInlineCredential (beforeEq value ++ "=" ++ credentialPlaceholder) := by
  simp only [isInlineCredential, Bool.and_eq_true, decide_eq_true_eq] at h ⊢
  obtain ⟨⟨-, hdash⟩, hflag⟩ := h
  refine ⟨⟨?_, ?_⟩, ?_⟩
  · rw [toList_inline]; simp
  · obtain ⟨rest, hrest⟩ := startsWithDash_iff.mp hdash
    rw [startsWithDash_iff, toList_inline]; simp [beforeEq, hrest]
  · rw [beforeEq_append (eq_notMem_beforeEq value)]; exact hflag

lemma flagNameOf_eq_some {cs : List Char} {name : String} (h : flagNameOf cs = some name) :
    '=' ∉ cs := by
  cases cs with
  | nil => simp
  | cons c rest =>
  rw [flagNameOf] at h
  by_cases hchars : (isAlphanumeric c && rest.all isFlagChar)
  · rw [Bool.and_eq_true, all_eq_true] at hchars
    intro hmem
    rcases mem_cons.mp hmem with hc | hrest
    · rw [← hc] at hchars; exact absurd hchars.1 (by decide)
    · exact absurd (hchars.2 _ hrest) (by decide)
  · rw [if_neg hchars] at h; cases h

lemma cliFlagName_eq_some {token name : String} (h : cliFlagName token = some name) :
    startsWithDash token ∧ '=' ∉ token.toList := by
  unfold cliFlagName at h
  split at h
  · next rest htoken =>
    refine ⟨startsWithDash_iff.mpr ⟨_, htoken⟩, ?_⟩
    rw [htoken]; simp [flagNameOf_eq_some h]
  · next rest _ htoken =>
    refine ⟨startsWithDash_iff.mpr ⟨_, htoken⟩, ?_⟩
    rw [htoken]; simp [flagNameOf_eq_some h]
  · cases h

lemma isCredentialFlagText_form {token : String} (h : isCredentialFlagText token) :
    startsWithDash token ∧ '=' ∉ token.toList := by
  unfold isCredentialFlagText at h
  cases hname : cliFlagName token with
  | none => rw [hname] at h; cases h
  | some name => exact cliFlagName_eq_some hname

lemma startsWithDash_placeholder : startsWithDash credentialPlaceholder = false := by
  decide +kernel

section Element

variable {value : String} {previous : Option Json}

lemma scrubElementText_cases (value : String) (previous : Option Json) :
    scrubElementText value previous = value ∨
      scrubElementText value previous = credentialPlaceholder ∨
      (isInlineCredential value ∧
        scrubElementText value previous = beforeEq value ++ "=" ++ credentialPlaceholder) := by
  unfold scrubElementText
  split
  · exact .inl rfl
  split
  · next hinline =>
    split
    · exact .inl rfl
    · exact .inr (.inr ⟨hinline, rfl⟩)
  · split
    · exact .inr (.inl rfl)
    · split
      · exact .inr (.inl rfl)
      · exact .inl rfl

lemma scrubElementText_clear (value : String) (previous : Option Json) :
    IsClear (scrubElementText value previous) := by
  unfold scrubElementText
  split
  · next h => exact .inl h
  split
  · next hinline =>
    split
    · next hsafe => exact .inr (.inl ⟨hinline, hsafe⟩)
    · refine .inr (.inl ⟨isInlineCredential_replaced hinline, ?_⟩)
      rw [afterEq_append (eq_notMem_beforeEq value)]
      exact isSafePlaceholderText_placeholder
  · split
    · exact placeholder_clear
    · split
      · exact placeholder_clear
      · next h => exact .inr (.inr (by simpa using h))

lemma scrubElementText_of_flag_after
    (h : isCredentialFlagText (scrubElementText value previous)) :
    scrubElementText value previous = value := by
  obtain ⟨hdash, heq⟩ := isCredentialFlagText_form h
  rcases scrubElementText_cases value previous with hsame | hplaceholder | ⟨-, hinline⟩
  · exact hsame
  · rw [hplaceholder, startsWithDash_placeholder] at hdash; cases hdash
  · rw [hinline, toList_inline] at heq; simp at heq

lemma scrubElementText_of_flag (h : isCredentialFlagText value) :
    scrubElementText value previous = value ↔
      isSafePlaceholderText value ∨ valueLooksLikeSecret value = false := by
  obtain ⟨hdash, heq⟩ := isCredentialFlagText_form h
  have hinline : isInlineCredential value = false := by
    simp [isInlineCredential, heq]
  have hne : credentialPlaceholder ≠ value := by
    intro hvalue
    rw [← hvalue, startsWithDash_placeholder] at hdash; cases hdash
  unfold scrubElementText
  by_cases hsafe : isSafePlaceholderText value
  · simp [hsafe]
  · by_cases hsecret : valueLooksLikeSecret value
    · simp [hsafe, hinline, hdash, hsecret, hne]
    · simp [hsafe, hinline, hdash, hsecret]

lemma scrubElementText_after_flag (hflag : isCredentialFlag previous) :
    isSafePlaceholderText (scrubElementText value previous) ∨
      startsWithDash (scrubElementText value previous) := by
  unfold scrubElementText
  split
  · next h => exact .inl h
  split
  · next hinline =>
    split
    · exact .inr (by simp_all [isInlineCredential])
    · have hreplaced := isInlineCredential_replaced hinline
      simp only [isInlineCredential, Bool.and_eq_true] at hreplaced
      exact .inr hreplaced.1.2
  · split
    · exact .inl isSafePlaceholderText_placeholder
    · next hdash =>
      rw [hflag] at hdash
      split
      · exact .inl isSafePlaceholderText_placeholder
      · exact .inr (by simpa using hdash)

lemma scrubElementText_again {previous' : Option Json}
    (hflag : isCredentialFlag previous' → isCredentialFlag previous) :
    scrubElementText (scrubElementText value previous) previous' =
      scrubElementText value previous := by
  have hplaceholder : scrubElementText credentialPlaceholder previous' = credentialPlaceholder := by
    unfold scrubElementText
    rw [if_pos isSafePlaceholderText_placeholder]
  by_cases hsafe : isSafePlaceholderText value
  · have hsame : ∀ q, scrubElementText value q = value := by
      intro q
      unfold scrubElementText
      rw [if_pos hsafe]
    rw [hsame, hsame]
  by_cases hinline : isInlineCredential value
  · by_cases hafter : isSafePlaceholderText (afterEq value)
    · have hsame : ∀ q, scrubElementText value q = value := by
        intro q
        unfold scrubElementText
        rw [if_neg hsafe, if_pos hinline, if_pos hafter]
      rw [hsame, hsame]
    · have hreplaced : scrubElementText value previous =
          beforeEq value ++ "=" ++ credentialPlaceholder := by
        unfold scrubElementText
        rw [if_neg hsafe, if_pos hinline, if_neg hafter]
      rw [hreplaced]
      unfold scrubElementText
      rw [if_pos (isInlineCredential_replaced hinline), afterEq_append (eq_notMem_beforeEq value),
        if_pos isSafePlaceholderText_placeholder]
      simp
  by_cases hpositional : (!startsWithDash value && isCredentialFlag previous)
  · have hreplaced : scrubElementText value previous = credentialPlaceholder := by
      unfold scrubElementText
      rw [if_neg hsafe, if_neg hinline, if_pos hpositional]
    rw [hreplaced, hplaceholder]
  by_cases hsecret : valueLooksLikeSecret value
  · have hreplaced : scrubElementText value previous = credentialPlaceholder := by
      unfold scrubElementText
      rw [if_neg hsafe, if_neg hinline, if_neg hpositional, if_pos hsecret]
    rw [hreplaced, hplaceholder]
  · have hsame : scrubElementText value previous = value := by
      unfold scrubElementText
      rw [if_neg hsafe, if_neg hinline, if_neg hpositional, if_neg hsecret]
    have hpositional' : ¬(!startsWithDash value && isCredentialFlag previous') := by
      intro h
      rw [Bool.and_eq_true] at h hpositional; exact hpositional ⟨h.1, hflag h.2⟩
    rw [hsame]
    unfold scrubElementText
    rw [if_neg hsafe, if_neg hinline, if_neg hpositional', if_neg hsecret]

end Element

/-! ## Places -/

/-- Where a value stands. -/
inductive Place where
  | root
  | field (key : String)
  /-- in an array, after another element if it is not the first one -/
  | element (previous : Option Json)

/-- The element before the `i`th one, with `first` before the first one. -/
def previousOf (first : Option Json) (xs : List Json) : ℕ → Option Json
  | 0 => first
  | i + 1 => xs[i]?

inductive Occurs (document : Json) : Place → Json → Prop
  | root : Occurs document .root document
  | field {place : Place} {fields : List (String × Json)} {key : String} {value : Json} :
    Occurs document place (.obj fields) → (key, value) ∈ fields →
      Occurs document (.field key) value
  | element {place : Place} {xs : List Json} {i : ℕ} {value : Json} :
    Occurs document place (.arr xs) → xs[i]? = some value →
      Occurs document (.element (previousOf none xs i)) value

def Place.IsCredential : Place → Prop
  | .field key => isCredentialField key
  | _ => False

/-- A value that the scrubber comes to: what is under the name of a credential is not looked
into, and `__proto__` is left out. -/
inductive Reaches (config : Json) : Place → Json → Prop
  | root : Reaches config .root config
  | field {place : Place} {fields : List (String × Json)} {key : String} {value : Json} :
    Reaches config place (.obj fields) → ¬place.IsCredential → (key, value) ∈ fields →
      key ≠ "__proto__" → Reaches config (.field key) value
  | element {place : Place} {xs : List Json} {i : ℕ} {value : Json} :
    Reaches config place (.arr xs) → ¬place.IsCredential → xs[i]? = some value →
      Reaches config (.element (previousOf none xs i)) value

def scrubAt : Place → Json → Json
  | .root, value => stripCredentials value
  | .field key, value =>
    if isCredentialField key then scrubCredential value else scrubConfigValue value
  | .element previous, value => scrubArrayElement value previous

inductive SamePlace : Place → Place → Prop
  | root : SamePlace .root .root
  | field {key : String} : SamePlace (.field key) (.field key)
  | first : SamePlace (.element none) (.element none)
  | after {previous : Json} {q : Option Json} :
    SamePlace (.element (some (scrubArrayElement previous q))) (.element (some previous))

section Strip

variable {fields : List (String × Json)} {xs : List Json} {key : String} {value : Json}

lemma scrubAt_credential (h : isCredentialField key) :
    scrubAt (.field key) value = scrubCredential value := if_pos h

lemma scrubAt_field (h : ¬isCredentialField key) :
    scrubAt (.field key) value = scrubConfigValue value := if_neg h

lemma scrubCredential_form (value : Json) :
    scrubCredential value = .null ∨ ∃ s, scrubCredential value = .str s ∧
      isSafePlaceholderText s := by
  cases value with
  | null => exact .inl rfl
  | str s =>
    by_cases hsafe : isSafePlaceholderText s
    · exact .inr ⟨s, if_pos hsafe, hsafe⟩
    · exact .inr ⟨_, if_neg hsafe, isSafePlaceholderText_placeholder⟩
  | _ => exact .inr ⟨_, rfl, isSafePlaceholderText_placeholder⟩

lemma mem_stripFields : (key, value) ∈ stripFields fields ↔
    ∃ v, (key, v) ∈ fields ∧ key ≠ "__proto__" ∧ value = scrubAt (.field key) v := by
  induction fields with
  | nil => simp [stripFields]
  | cons field rest ih =>
    obtain ⟨k, v⟩ := field
    by_cases hproto : k = "__proto__"
    · rw [stripFields, if_pos hproto, ih]
      constructor
      · intro ⟨w, hw, hkey⟩; exact ⟨w, mem_cons_of_mem _ hw, hkey⟩
      intro ⟨w, hw, hkey, hvalue⟩
      rcases mem_cons.mp hw with heq | hw
      · cases heq; exact absurd hproto hkey
      · exact ⟨w, hw, hkey, hvalue⟩
    · have hcons : stripFields ((k, v) :: rest) = (k, scrubAt (.field k) v) :: stripFields rest := by
        rw [stripFields, if_neg hproto]
        by_cases hcredential : isCredentialField k
        · rw [if_pos hcredential, scrubAt_credential hcredential]
        · rw [if_neg hcredential, scrubAt_field hcredential]; rfl
      rw [hcons, mem_cons, ih]
      constructor
      · intro h
        rcases h with heq | ⟨w, hw, hkey⟩
        · cases heq; exact ⟨v, mem_cons_self, hproto, rfl⟩
        · exact ⟨w, mem_cons_of_mem _ hw, hkey⟩
      · intro ⟨w, hw, hkey, hvalue⟩
        rcases mem_cons.mp hw with heq | hw
        · cases heq; exact .inl (by rw [hvalue])
        · exact .inr ⟨w, hw, hkey, hvalue⟩

lemma getElem?_stripElements (first : Option Json) (i : ℕ) :
    (stripElements first xs)[i]? = xs[i]?.map fun v => scrubArrayElement v (previousOf first xs i) := by
  induction xs generalizing first i with
  | nil => simp [stripElements]
  | cons v rest ih =>
    rw [stripElements]
    cases i with
    | zero => rfl
    | succ i =>
    rw [List.getElem?_cons_succ, List.getElem?_cons_succ, ih]
    cases i <;> rfl

/-- A place where nothing is looked into holds no object and no array. -/
lemma scrubAt_open {place : Place} (h : ∀ s, scrubAt place value ≠ .str s)
    (hnull : scrubAt place value ≠ .null) : ¬place.IsCredential := by
  intro hplace
  cases place with
  | field key =>
    rw [scrubAt_credential hplace] at h hnull
    rcases scrubCredential_form value with hform | ⟨s, hform, -⟩
    · exact hnull hform
    · exact h s hform
  | _ => exact hplace

lemma textOr_stripCredentials_eq (f : String → String) (h : ∀ s, value ≠ .str s) :
    textOr f value (stripCredentials value) = stripCredentials value := by
  cases value with
  | str s => exact absurd rfl (h s)
  | _ => rfl

lemma scrubAt_of_open {place : Place} (hplace : ¬place.IsCredential)
    (h : ∀ s, value ≠ .str s) : scrubAt place value = stripCredentials value := by
  cases place with
  | root => rfl
  | field key => rw [scrubAt_field hplace]; exact textOr_stripCredentials_eq scrubText h
  | element previous => exact textOr_stripCredentials_eq _ h

lemma scrubAt_str (place : Place) (s : String) : ∃ s', scrubAt place (.str s) = .str s' := by
  cases place with
  | root => exact ⟨s, rfl⟩
  | field key =>
    by_cases hcredential : isCredentialField key
    · rw [scrubAt_credential hcredential]
      by_cases hsafe : isSafePlaceholderText s
      · exact ⟨s, if_pos hsafe⟩
      · exact ⟨_, if_neg hsafe⟩
    · rw [scrubAt_field hcredential]; exact ⟨_, rfl⟩
  | element previous => exact ⟨_, rfl⟩

lemma scrubAt_eq_strip {place : Place} {stripped : Json} (h : scrubAt place value = stripped)
    (htext : ∀ s, stripped ≠ .str s) (hnull : stripped ≠ .null) :
    ¬place.IsCredential ∧ stripCredentials value = stripped := by
  have hplace : ¬place.IsCredential := by
    refine @scrubAt_open value place (fun s hs => htext s ?_) fun hn => hnull ?_
    · rw [← h, hs]
    · rw [← h, hn]
  refine ⟨hplace, ?_⟩
  rw [← h, scrubAt_of_open hplace]
  intro s hs
  subst hs
  obtain ⟨s', hs'⟩ := scrubAt_str place s; exact htext s' (h.symm.trans hs')

lemma stripCredentials_eq_obj (h : stripCredentials value = .obj fields) :
    ∃ fields', value = .obj fields' ∧ fields = stripFields fields' := by
  cases value with
  | obj fields' => rw [stripCredentials] at h; exact ⟨fields', rfl, (Json.obj.inj h).symm⟩
  | arr xs => rw [stripCredentials] at h; cases h
  | _ => cases h

lemma stripCredentials_eq_arr (h : stripCredentials value = .arr xs) :
    ∃ xs', value = .arr xs' ∧ xs = stripElements none xs' := by
  cases value with
  | obj fields' => rw [stripCredentials] at h; cases h
  | arr xs' => rw [stripCredentials] at h; exact ⟨xs', rfl, (Json.arr.inj h).symm⟩
  | _ => cases h

end Strip

section Document

variable {config : Json} {place : Place} {value : Json}

/-- The element before another one, after the scrub and before. -/
lemma samePlace_previous (xs : List Json) {i : ℕ} (hi : i < xs.length) :
    SamePlace (.element (previousOf none (stripElements none xs) i))
      (.element (previousOf none xs i)) := by
  cases i with
  | zero => exact .first
  | succ i =>
  have hi : i < xs.length := by omega
  have hscrubbed : (stripElements none xs)[i]? =
      some (scrubArrayElement xs[i] (previousOf none xs i)) := by
    rw [getElem?_stripElements, List.getElem?_eq_getElem hi]
    rfl
  show SamePlace (.element (stripElements none xs)[i]?) (.element xs[i]?)
  rw [hscrubbed, List.getElem?_eq_getElem hi]; exact .after

/-- Each value of the stripped document is what a value of the configuration became. -/
lemma reaches_of_occurs (h : Occurs (stripCredentials config) place value) :
    ∃ place' value', Reaches config place' value' ∧ SamePlace place place' ∧
      value = scrubAt place' value' := by
  induction h with
  | root => exact ⟨.root, config, .root, .root, rfl⟩
  | @field place fields key value _ hmem ih =>
    obtain ⟨place', value', hreaches, -, hscrub⟩ := ih
    obtain ⟨hopen, hstrip⟩ := scrubAt_eq_strip hscrub.symm (by simp) (by simp)
    obtain ⟨fields', rfl, rfl⟩ := stripCredentials_eq_obj hstrip
    obtain ⟨v, hv, hproto, rfl⟩ := mem_stripFields.mp hmem
    exact ⟨.field key, v, hreaches.field hopen hv hproto, .field, rfl⟩
  | @element place xs i value _ hi ih =>
    obtain ⟨place', value', hreaches, -, hscrub⟩ := ih
    obtain ⟨hopen, hstrip⟩ := scrubAt_eq_strip hscrub.symm (by simp) (by simp)
    obtain ⟨xs', rfl, rfl⟩ := stripCredentials_eq_arr hstrip
    rw [getElem?_stripElements] at hi
    obtain ⟨v, hv, rfl⟩ := Option.map_eq_some_iff.mp hi
    have hlt : i < xs'.length := (List.getElem?_eq_some_iff.mp hv).1
    exact ⟨_, v, hreaches.element hopen hv, samePlace_previous xs' hlt, rfl⟩

/-- Each value that the scrubber comes to is in the stripped document, as what it became. -/
lemma occurs_of_reaches (h : Reaches config place value) :
    ∃ place', SamePlace place' place ∧
      Occurs (stripCredentials config) place' (scrubAt place value) := by
  induction h with
  | root => exact ⟨.root, .root, .root⟩
  | @field place fields key value _ hopen hmem hproto ih =>
    obtain ⟨place', -, hoccurs⟩ := ih
    have hstrip : scrubAt place (.obj fields) = .obj (stripFields fields) :=
      (scrubAt_of_open hopen (by simp)).trans (by rw [stripCredentials])
    rw [hstrip] at hoccurs
    exact ⟨.field key, .field, hoccurs.field (mem_stripFields.mpr ⟨value, hmem, hproto, rfl⟩)⟩
  | @element place xs i value _ hopen hi ih =>
    obtain ⟨place', -, hoccurs⟩ := ih
    have hstrip : scrubAt place (.arr xs) = .arr (stripElements none xs) :=
      (scrubAt_of_open hopen (by simp)).trans (by rw [stripCredentials])
    rw [hstrip] at hoccurs
    have hlt : i < xs.length := (List.getElem?_eq_some_iff.mp hi).1
    have hscrubbed : (stripElements none xs)[i]? =
        some (scrubAt (.element (previousOf none xs i)) value) := by
      rw [getElem?_stripElements, hi]; rfl
    exact ⟨_, samePlace_previous xs hlt, hoccurs.element hscrubbed⟩

end Document

lemma isCredentialFlag_scrubbed {value : Json} {previous : Option Json}
    (h : isCredentialFlag (some (scrubArrayElement value previous))) :
    isCredentialFlag (some value) := by
  cases value with
  | str s =>
    have hflag : isCredentialFlagText (scrubElementText s previous) := h
    rw [scrubElementText_of_flag_after hflag] at hflag; exact hflag
  | _ =>
    simp only [scrubArrayElement, textOr, stripCredentials, isCredentialFlag] at h; cases h

lemma stripCredentials_ne_str {value : Json} (h : ∀ s, value ≠ .str s) (s : String) :
    stripCredentials value ≠ .str s := by
  cases value with
  | str s' => exact absurd rfl (h s')
  | _ => simp [stripCredentials]

lemma textOr_again {f g : String → String} {value : Json} (hfg : ∀ s, g (f s) = f s)
    (hstrip : stripCredentials (stripCredentials value) = stripCredentials value) :
    textOr g (textOr f value (stripCredentials value))
        (stripCredentials (textOr f value (stripCredentials value))) =
      textOr f value (stripCredentials value) := by
  by_cases htext : ∃ s, value = .str s
  · obtain ⟨s, rfl⟩ := htext; exact congrArg Json.str (hfg s)
  · have hvalue : ∀ s, value ≠ .str s := fun s hs => htext ⟨s, hs⟩
    rw [textOr_stripCredentials_eq f hvalue,
      textOr_stripCredentials_eq g (stripCredentials_ne_str hvalue), hstrip]

lemma scrubCredential_again (value : Json) :
    scrubCredential (scrubCredential value) = scrubCredential value := by
  rcases scrubCredential_form value with h | ⟨s, h, hsafe⟩
  · rw [h]; rfl
  · rw [h]; exact if_pos hsafe

mutual

lemma stripCredentials_again : ∀ value : Json,
    stripCredentials (stripCredentials value) = stripCredentials value
  | .obj fields => by
    rw [stripCredentials, stripCredentials, stripFields_again fields]
  | .arr xs => by
    rw [stripCredentials, stripCredentials, stripElements_again xs none none fun h => h]
  | .null => rfl
  | .bool _ => rfl
  | .num _ => rfl
  | .str _ => rfl

lemma stripFields_again : ∀ fields : List (String × Json),
    stripFields (stripFields fields) = stripFields fields
  | [] => by rw [stripFields, stripFields]
  | (key, value) :: rest => by
    rw [stripFields]
    split
    · exact stripFields_again rest
    next hproto =>
    split
    · next hcredential =>
      rw [stripFields, if_neg hproto, if_pos hcredential, scrubCredential_again,
        stripFields_again rest]
    · next hcredential =>
      rw [stripFields, if_neg hproto, if_neg hcredential,
        textOr_again scrubText_scrubText (stripCredentials_again value), stripFields_again rest]

lemma stripElements_again : ∀ (xs : List Json) (first first' : Option Json),
    (isCredentialFlag first' → isCredentialFlag first) →
      stripElements first' (stripElements first xs) = stripElements first xs
  | [], first, first', _ => by rw [stripElements, stripElements]
  | value :: rest, first, first', h => by
    rw [stripElements, stripElements,
      textOr_again (fun s => scrubElementText_again h) (stripCredentials_again value)]
    -- what the next element comes after is scrubbed too
    exact congrArg _ (stripElements_again rest (some value) _ isCredentialFlag_scrubbed)

end

/-- What stands under the name of a credential is null or a reference. -/
def CredentialsClear (document : Json) : Prop :=
  ∀ key value, Occurs document (.field key) value → isCredentialField key →
    value = .null ∨ isSafeCredentialPlaceholder value

def TextsClear (document : Json) : Prop :=
  ∀ place s, Occurs document place (.str s) → ¬place.IsCredential → IsClear s

/-- What comes after the flag of a credential is null, a reference or a flag. -/
def FlagValuesClear (document : Json) : Prop :=
  ∀ previous value, Occurs document (.element (some previous)) value →
    isCredentialFlag (some previous) →
      value = .null ∨ isSafeCredentialPlaceholder value ∨
        ∃ s, value = .str s ∧ startsWithDash s

/-- The configuration is no text that looks like a secret. -/
def RootClear (config : Json) : Prop := ∀ s, config = .str s → IsClear s

/-- What the scrubber finds after the flag of a credential that stays is null or a text. -/
def FlagValuesTexts (config : Json) : Prop :=
  ∀ s value, Reaches config (.element (some (.str s))) value → isCredentialFlagText s →
    (isSafePlaceholderText s ∨ valueLooksLikeSecret s = false) →
      value = .null ∨ ∃ text, value = .str text

section Clear

variable {config : Json}

lemma stripCredentials_credentialsClear (config : Json) :
    CredentialsClear (stripCredentials config) := by
  intro key value hoccurs hcredential
  obtain ⟨place', value', -, hsame, rfl⟩ := reaches_of_occurs hoccurs
  cases hsame
  rw [scrubAt_credential hcredential]
  rcases scrubCredential_form value' with h | ⟨s, h, hsafe⟩
  · exact .inl h
  · rw [h]; exact .inr hsafe

lemma stripCredentials_textsClear : TextsClear (stripCredentials config) ↔ RootClear config := by
  constructor
  · intro h s hs
    subst hs; exact h .root s .root fun hplace => hplace
  · intro h place s hoccurs hopen
    obtain ⟨place', value', hreaches, hsame, hscrub⟩ := reaches_of_occurs hoccurs
    obtain ⟨s', rfl⟩ : ∃ s', value' = .str s' := by
      by_contra htext
      have hvalue : ∀ s, value' ≠ .str s := fun s hs => htext ⟨s, hs⟩
      have hopen' : ¬place'.IsCredential := by
        cases hsame with
        | field => exact hopen
        | _ => exact fun hplace => hplace
      rw [scrubAt_of_open hopen' hvalue] at hscrub
      exact stripCredentials_ne_str hvalue s hscrub.symm
    cases hsame with
    | root => cases hreaches; exact h s (Json.str.inj hscrub ▸ rfl)
    | field =>
      rw [scrubAt_field hopen] at hscrub
      cases hscrub; exact scrubText_clear s'
    | first => cases hscrub; exact scrubElementText_clear s' none
    | after => cases hscrub; exact scrubElementText_clear s' _

lemma stripCredentials_flagValuesClear :
    FlagValuesClear (stripCredentials config) ↔ FlagValuesTexts config := by
  constructor
  · intro h s value hreaches hflag hstays
    by_contra htext
    rw [not_or] at htext
    obtain ⟨place', hsame, hoccurs⟩ := occurs_of_reaches hreaches
    have hvalue : ∀ s, value ≠ .str s := fun s hs => htext.2 ⟨s, hs⟩
    have hopen : ¬(Place.element (some (.str s))).IsCredential := fun hplace => hplace
    rw [scrubAt_of_open hopen hvalue] at hoccurs
    cases hsame with
    | @after _ q =>
      have hflagStays : scrubArrayElement (.str s) q = .str s :=
        congrArg Json.str ((scrubElementText_of_flag hflag).mpr hstays)
      rw [hflagStays] at hoccurs
      rcases h _ _ hoccurs hflag with hnull | hsafe | ⟨t, ht, -⟩
      · cases value with
        | null => exact htext.1 rfl
        | str t => exact hvalue t rfl
        | _ => simp [stripCredentials] at hnull
      · cases hstripped : stripCredentials value with
        | str t => exact stripCredentials_ne_str hvalue t hstripped
        | _ => rw [hstripped] at hsafe; cases hsafe
      · exact stripCredentials_ne_str hvalue t ht
  · intro h previous value hoccurs hflag
    obtain ⟨place', value', hreaches, hsame, rfl⟩ := reaches_of_occurs hoccurs
    cases hsame with
    | @after previous q =>
      cases previous with
      | str s =>
        have hflagText : isCredentialFlagText (scrubElementText s q) := hflag
        have hstays := scrubElementText_of_flag_after hflagText
        rw [hstays] at hflagText
        rcases h s value' hreaches hflagText ((scrubElementText_of_flag hflagText).mp hstays)
          with rfl | ⟨text, rfl⟩
        · exact .inl rfl
        rcases @scrubElementText_after_flag text (some (.str s)) hflagText
          with hsafe | hdash
        · exact .inr (.inl hsafe)
        · exact .inr (.inr ⟨_, rfl, hdash⟩)
      | _ =>
        simp only [scrubArrayElement, textOr, stripCredentials, isCredentialFlag] at hflag
        cases hflag

end Clear

section Files

variable {formats : Formats} {configName rawConfig out : String} {config : Json}

structure Formats.ReadsBack (formats : Formats) (document : Json) : Prop where
  json : formats.parseJson (formats.stringifyJson document) = some document
  yaml : formats.parseYaml (formats.stringifyYaml document) = some document
  /-- YAML that is JSON too is the same document -/
  agree : ∀ other, formats.parseJson (formats.stringifyYaml document) = some other →
    other = document

/-- What is left of a configuration. -/
def sanitized (config : Json) : Json := stripCredentials (withoutGateway config)

lemma sanitized_gateway (config : Json) : (sanitized config).get? "gateway" = none := by
  cases config with
  | obj fields =>
    show (stripCredentials (.obj (deleteKey fields "gateway"))).get? "gateway" = none
    rw [stripCredentials, get?_obj]
    cases hlookup : (stripFields (deleteKey fields "gateway")).lookup "gateway" with
    | none => rfl
    | some value =>
      obtain ⟨v, hv, -⟩ := mem_stripFields.mp (mem_of_lookup hlookup)
      have hne := (mem_filter.mp hv).2; simp at hne
  | arr xs =>
    show (stripCredentials (.arr xs)).get? "gateway" = none
    rw [stripCredentials]; rfl
  | _ => rfl

lemma sanitized_sanitized (config : Json) : sanitized (sanitized config) = sanitized config := by
  have hgateway : withoutGateway (sanitized config) = sanitized config := by
    have hnone := sanitized_gateway config
    cases hsanitized : sanitized config with
    | obj fields =>
      rw [hsanitized, get?_obj] at hnone
      refine congrArg Json.obj (filter_eq_self.mpr fun field hfield => ?_)
      simp only [decide_eq_true_eq]
      intro hkey
      obtain ⟨value, hvalue⟩ := lookup_of_mem_keys (mem_map_of_mem (f := (·.1)) hfield)
      rw [hkey, hnone] at hvalue; cases hvalue
    | _ => rfl
  unfold sanitized at hgateway ⊢
  rw [hgateway, stripCredentials_again]

def OnlyYamlObject (formats : Formats) (text : String) (document : Json) : Prop :=
  formats.parseJson text = none → document = .null ∨ ∃ fields, document = .obj fields

lemma readDocument_json (h : formats.parseJson rawConfig = some config) :
    readDocument formats configName rawConfig = some config := by
  unfold readDocument
  rw [h]

lemma readDocument_yaml (h : formats.parseJson rawConfig = none)
    (hname : isYamlName configName) :
    readDocument formats configName rawConfig = formats.parseYaml rawConfig := by
  unfold readDocument
  rw [h]; exact if_pos hname

lemma sanitize_reads (hread : readDocument formats configName rawConfig = some config)
    (hyaml : OnlyYamlObject formats rawConfig config)
    (hback : formats.ReadsBack (sanitized config)) :
    ∃ out, sanitizeConfigFileContent formats configName rawConfig = some out ∧
      readDocument formats configName out = some (sanitized config) ∧
      OnlyYamlObject formats out (sanitized config) := by
  unfold sanitizeConfigFileContent
  cases hjson : formats.parseJson rawConfig with
  | some parsed =>
    rw [readDocument_json hjson] at hread
    cases hread
    refine ⟨_, rfl, readDocument_json hback.json, fun hnone => ?_⟩
    exact absurd (hback.json.symm.trans hnone) (by simp)
  | none =>
    by_cases hname : isYamlName configName
    · rw [readDocument_yaml hjson hname] at hread
      simp only [if_pos hname]
      unfold sanitizeYamlConfigContent
      rw [hread]
      rcases hyaml hjson with rfl | ⟨fields, rfl⟩
      · refine ⟨rawConfig, rfl, ?_, fun _ => .inl rfl⟩
        rw [readDocument_yaml hjson hname, hread]; rfl
      · refine ⟨_, rfl, ?_, fun _ => .inr ⟨_, by rw [sanitized, withoutGateway, stripCredentials]⟩⟩
        -- the printed YAML may be JSON too
        cases hprinted : formats.parseJson (formats.stringifyYaml (sanitized (.obj fields))) with
        | some other =>
          obtain rfl := hback.agree other hprinted
          exact readDocument_json hprinted
        | none => exact (readDocument_yaml hprinted hname).trans hback.yaml
    · unfold readDocument at hread
      rw [hjson] at hread; simp only [if_neg hname] at hread; cases hread

lemma onlyYamlObject_of_sanitize
    (h : sanitizeConfigFileContent formats configName rawConfig = some out)
    (hread : readDocument formats configName rawConfig = some config) :
    OnlyYamlObject formats rawConfig config := by
  intro hjson
  unfold sanitizeConfigFileContent at h
  simp only [hjson] at h
  by_cases hname : isYamlName configName
  · rw [readDocument_yaml hjson hname] at hread
    rw [if_pos hname, sanitizeYamlConfigContent, hread] at h
    cases config with
    | null => exact .inl rfl
    | obj fields => exact .inr ⟨fields, rfl⟩
    | _ => cases h
  · rw [if_neg hname] at h; cases h

/-- The document that a sanitised file holds: what is under a credential name is null or a
reference, every other text is clear exactly if the configuration is not itself a text that
looks like a secret, what follows the flag of a credential is null, a reference or a flag
exactly if the scrubber found null or a text there, there is no gateway section, and
sanitising it again leaves it as it is. -/
theorem sanitizeConfigFileContent_clear
    (h : sanitizeConfigFileContent formats configName rawConfig = some out)
    (hread : readDocument formats configName rawConfig = some config)
    (hback : formats.ReadsBack (sanitized config)) :
    ∃ document, readDocument formats configName out = some document ∧
      CredentialsClear document ∧
      (TextsClear document ↔ RootClear config) ∧
      (FlagValuesClear document ↔ FlagValuesTexts (withoutGateway config)) ∧
      document.get? "gateway" = none ∧
      ∃ again, sanitizeConfigFileContent formats configName out = some again ∧
        readDocument formats configName again = some document := by
  obtain ⟨out', hout, hreads, hyaml⟩ :=
    sanitize_reads hread (onlyYamlObject_of_sanitize h hread) hback
  cases h.symm.trans hout
  have hfixed := sanitized_sanitized config
  obtain ⟨again, hagain, hreads', -⟩ := sanitize_reads hreads hyaml (hfixed.symm ▸ hback)
  refine ⟨sanitized config, hreads, stripCredentials_credentialsClear _, ?_,
    stripCredentials_flagValuesClear, sanitized_gateway config, again, hagain, ?_⟩
  · refine stripCredentials_textsClear.trans ?_
    cases config with
    | obj fields => exact ⟨fun _ s hs => (nomatch hs), fun _ s hs => (nomatch hs)⟩
    | _ => exact Iff.rfl
  · rw [hreads', hfixed]

/-- Printing and parsing, on a configuration with a gateway section and a token. -/
def tokenFormats : Formats where
  parseJson text :=
    if text = "\x7b\"gateway\":\x7b\x7d,\"token\":\"abc\"\x7d" then
      some (.obj [("gateway", .obj []), ("token", .str "abc")])
    else if text = "\x7b\n  \"token\": \"[STRIPPED_BY_MIGRATION]\"\n\x7d" then
      some (.obj [("token", .str "[STRIPPED_BY_MIGRATION]")])
    else none
  stringifyJson _ := "\x7b\n  \"token\": \"[STRIPPED_BY_MIGRATION]\"\n\x7d"
  parseYaml text :=
    if text = "token: \"[STRIPPED_BY_MIGRATION]\"\n" then
      some (.obj [("token", .str "[STRIPPED_BY_MIGRATION]")])
    else none
  stringifyYaml _ := "token: \"[STRIPPED_BY_MIGRATION]\"\n"

theorem sanitizeConfigFileContent_token :
    ∃ document, readDocument tokenFormats "openclaw.json"
        "\x7b\n  \"token\": \"[STRIPPED_BY_MIGRATION]\"\n\x7d" = some document ∧
      CredentialsClear document ∧ document.get? "gateway" = none := by
  have hcredential : isCredentialField "token" := by decide +kernel
  have hsafe : isSafePlaceholderText "abc" = false := by decide +kernel
  have hsanitized : sanitized (.obj [("gateway", .obj []), ("token", .str "abc")]) =
      .obj [("token", .str "[STRIPPED_BY_MIGRATION]")] := by
    simp [sanitized, withoutGateway, deleteKey, stripCredentials, stripFields, hcredential,
      scrubCredential, isSafeCredentialPlaceholder, hsafe, credentialPlaceholder]
  have hback : tokenFormats.ReadsBack
      (sanitized (.obj [("gateway", .obj []), ("token", .str "abc")])) := by
    rw [hsanitized]; exact ⟨rfl, rfl, nofun⟩
  obtain ⟨document, hread, hcredentials, -, -, hgateway, -⟩ :=
    @sanitizeConfigFileContent_clear tokenFormats "openclaw.json"
      "\x7b\"gateway\":\x7b\x7d,\"token\":\"abc\"\x7d" _ _ rfl rfl hback
  exact ⟨document, hread, hcredentials, hgateway⟩

/-- Printing and parsing, on a file that is one text and on a list of arguments. -/
def bareFormats : Formats where
  parseJson text :=
    if text = "\"ghp_0123456789abcdef\"" then some (.str "ghp_0123456789abcdef")
    else if text = "[\n  \"--api-key\",\n  12345678\n]" then
      some (.arr [.str "--api-key", .num 12345678])
    else none
  stringifyJson
    | .str _ => "\"ghp_0123456789abcdef\""
    | _ => "[\n  \"--api-key\",\n  12345678\n]"
  parseYaml _ := none
  stringifyYaml _ := ""

/-- A file that is one JSON text is not looked at, and neither is a number after the flag of
a credential. -/
theorem sanitizeConfigFileContent_bareSecret :
    (∃ out document,
        sanitizeConfigFileContent bareFormats "openclaw.json" "\"ghp_0123456789abcdef\"" =
          some out ∧
        readDocument bareFormats "openclaw.json" out = some document ∧ ¬TextsClear document) ∧
      ∃ out document,
        sanitizeConfigFileContent bareFormats "openclaw.json"
          "[\n  \"--api-key\",\n  12345678\n]" = some out ∧
        readDocument bareFormats "openclaw.json" out = some document ∧
          ¬FlagValuesClear document := by
  refine ⟨⟨_, _, rfl, rfl, fun h => ?_⟩, ⟨_, _, rfl, rfl, fun h => ?_⟩⟩
  · rcases h .root _ .root (fun hplace => hplace) with hsafe | ⟨hinline, -⟩ | hsecret
    · exact absurd hsafe (by decide +kernel)
    · exact absurd hinline (by decide +kernel)
    · exact absurd hsecret (by decide +kernel)
  · have hnumber : Occurs (.arr [.str "--api-key", .num 12345678])
        (.element (previousOf none [.str "--api-key", .num 12345678] 1)) (.num 12345678) :=
      Occurs.element .root rfl
    rcases h _ _ hnumber (by decide +kernel) with hnull | hsafe | ⟨_, htext, -⟩
    · cases hnull
    · cases hsafe
    · cases htext

end Files

end NemoClaw.Security
