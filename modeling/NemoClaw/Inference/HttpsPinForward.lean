import NemoClaw.Lib.PercentText
import NemoClaw.Inference.HttpsPinServer

/- Forwarded paths and the base of the target they belong under.

Correspondence (inference/https-pin-runtime-adapter.ts ↔ Lean): `buildContainedForwardPath`
is in HttpsPinServer. Here:

  1. `Contained` — what a forwarded path is to be: the base of the target and what the
     request adds to it, with no dot segment and no slash that only decoding brings out.
  2. `joinedPath_eq` — the text that the function builds is that one.
  3. `Platform.Whatwg` — what is relied on of the URL parser.
  4. `Harmless` — the requests that are answered as they should be. The patterns of the
     function look at the escapes `%2f`, `%5c`, `%2e` and `%25` as they are written, and so
     they pass `%2%66`, which is decoded to `%2f`; and a joined text that starts with two
     slashes can be refused by the URL parser, where nothing catches the error.
-/
namespace NemoClaw.HttpsPin

open Js PercentText List Option String

/-- The path of the target without the slashes at its end; empty for the root. -/
def basePath (pathname : String) : List Char := (pathname.toList.reverse.dropWhile (· = '/')).reverse

/-- The first segment is `v1`. -/
def StartsWithV1 (suffix : List Char) : Prop := suffix = "/v1".toList ∨ "/v1/".toList <+: suffix

instance (suffix : List Char) : Decidable (StartsWithV1 suffix) :=
  inferInstanceAs (Decidable (_ ∨ _))

/-- What a request adds to the base. For an OpenAI route the `/v1` of the gateway is in the base,
unless that is the root. -/
def belowBase (route : RouteRuntime) (base suffix : List Char) : List Char :=
  if base = [] then suffix
  else if suffix = ['/'] then []
  else if route.providerType = .openai ∧ StartsWithV1 suffix then suffix.drop 3
  else suffix

structure Contained (base below search path : List Char) : Prop where
  path : path = base ++ below ++ search
  segments : base.splitOn '/' <+: (base ++ below).splitOn '/'
  dots : hasDotSegment below = false
  decoded : slashes (percentDecode below) = slashes below ∧
    slashes (percentDecode (percentDecode below)) = slashes below

/-- A path that is returned is contained, and whatever is not returned is rejected with 404. -/
def Contains (platform : Platform) (route : RouteRuntime)
    (suffix search rawRequestTarget : String) : Prop :=
  match buildContainedForwardPath platform route suffix search rawRequestTarget with
  | .error response => ∃ code, response = .failed 404 code
  | .ok path => ∃ pathname, platform.endpointPathname route.targetBaseUrl = some pathname ∧
      Contained (basePath pathname) (belowBase route (basePath pathname) suffix.toList)
        search.toList path.toList

/-- `%2e`, `%2f`, `%5c` and `%25`, in any case. -/
def refusedEscapes : List String := ["%2e", "%2E", "%2f", "%2F", "%5c", "%5C", "%25"]

/-- The raw path has such an escape, a dot segment, a backslash or a NUL. -/
def RefusedTarget (rawRequestTarget : String) : Prop :=
  let rawPath := rawRequestTarget.toList.takeWhile (· ≠ '?')
  (∃ escape ∈ refusedEscapes, escape.toList <:+: rawPath) ∨ hasDotSegment rawPath ∨
    '\\' ∈ rawPath ∨ Char.ofNat 0 ∈ rawPath

/-- Two slashes at the start of a reference: a host comes next. -/
def NamesHost (text : List Char) : Prop := "//".toList <+: text ∨ "/\\".toList <+: text

instance (text : List Char) : Decidable (NamesHost text) := inferInstanceAs (Decidable (_ ∨ _))

/-- What a request adds: nothing, a slash, or segments of its path. -/
def IsBelow (pathname : String) (below : List Char) : Prop :=
  below = [] ∨ below = ['/'] ∨ (below.head? = some '/' ∧ below <:+ pathname.toList)

/-- What the URL parser does with paths: no dot segment stays, a host is no part of the path, and
what it made of a path without a backslash is parsed again as it is, also below another. -/
structure Platform.Whatwg (platform : Platform) : Prop where
  dots : ∀ text canonical, platform.canonicalPathname text = some canonical →
    hasDotSegment canonical.toList = false
  host : ∀ text, NamesHost text.toList → platform.canonicalPathname text ≠ some text
  stable : ∀ {url base raw pathname search : String} {below : List Char},
    platform.endpointPathname url = some base →
    platform.requestUrl raw = some (pathname, search) → ¬RefusedTarget raw → IsBelow pathname below →
    basePath base ++ below ≠ [] → ¬NamesHost (basePath base ++ below) →
      platform.canonicalPathname (String.ofList (basePath base ++ below)) =
        some (String.ofList (basePath base ++ below))

/-- The raw path is refused; or the base with the suffix below it names a host, which the URL
parser takes; or it names none, and no slash is spelled in the suffix. -/
def Harmless (platform : Platform) (route : RouteRuntime) (suffix rawRequestTarget : String) :
    Prop :=
  RefusedTarget rawRequestTarget ∨
    ∀ pathname, platform.endpointPathname route.targetBaseUrl = some pathname →
      let joined := basePath pathname ++ belowBase route (basePath pathname) suffix.toList
      if NamesHost joined then (platform.canonicalPathname (String.ofList joined)).isSome
      else ∀ spelling ∈ slashSpellings, ¬spelling <:+: suffix.toList

section Refused

lemma toLower_eq_iff {c x : Char} (hx : x ∈ ['2', '5', 'c', 'e', 'f']) :
    c.toLower = x ↔ c = x ∨ c = x.toUpper := by
  by_cases hc : c.toNat < 128
  · have hascii : ∀ n < 128, ['2', '5', 'c', 'e', 'f'].all fun x =>
        (Char.ofNat n).toLower = x ↔ Char.ofNat n = x ∨ Char.ofNat n = x.toUpper := by
      decide +kernel
    have hiff := of_decide_eq_true (all_eq_true.mp (hascii c.toNat hc) x hx)
    rwa [Char.ofNat_toNat] at hiff
  · have hsame : c.toLower = c := by
      refine dif_neg fun hupper => hc ?_
      have hle : c.toNat ≤ 90 := hupper.2
      omega
    have hlow : ['2', '5', 'c', 'e', 'f'].all fun x => x.toUpper.toNat < 128 := by decide
    rw [hsame]
    refine (or_iff_left fun heq => hc ?_).symm
    rw [heq]; exact of_decide_eq_true (all_eq_true.mp hlow x hx)

lemma hasEncodedDelimiter_iff {text : List Char} :
    hasEncodedDelimiter text ↔ ∃ escape ∈ refusedEscapes, escape.toList <:+: text := by
  induction text using hasEncodedDelimiter.induct with
  | case1 c d rest ih =>
    have hhere : ([['2', 'e'], ['2', 'f'], ['5', 'c'], ['2', '5']].any fun code =>
        code = [c.toLower, d.toLower]) ↔
          ∃ escape ∈ refusedEscapes, escape.toList <+: '%' :: c :: d :: rest := by
      constructor
      · intro hany
        obtain ⟨code, hcode, heq⟩ := any_eq_true.mp hany
        have hcase : ∀ code ∈ [['2', 'e'], ['2', 'f'], ['5', 'c'], ['2', '5']],
            ['2', '5', 'c', 'e', 'f'].any fun x => ['2', '5', 'c', 'e', 'f'].any fun y =>
              code = [x, y] && [x, x.toUpper].all fun c => [y, y.toUpper].all fun d =>
                String.ofList ['%', c, d] ∈ refusedEscapes := by decide
        obtain ⟨x, hx, y, hy, hxy, hmem⟩ : ∃ x ∈ ['2', '5', 'c', 'e', 'f'],
            ∃ y ∈ ['2', '5', 'c', 'e', 'f'], code = [x, y] ∧ ∀ c ∈ [x, x.toUpper],
              ∀ d ∈ [y, y.toUpper], String.ofList ['%', c, d] ∈ refusedEscapes := by
          have hfound := hcase code hcode
          simpa only [List.any_eq_true, List.all_eq_true, Bool.and_eq_true,
            decide_eq_true_eq] using hfound
        obtain ⟨hc, htail⟩ := List.cons.inj (hxy.symm.trans (of_decide_eq_true heq))
        obtain ⟨hd, -⟩ := List.cons.inj htail
        refine ⟨_, hmem c ?_ d ?_, rest, by rw [toList_ofList]; rfl⟩
        · simpa using (toLower_eq_iff hx).mp hc.symm
        · simpa using (toLower_eq_iff hy).mp hd.symm
      · rintro ⟨escape, hmem, more, hmore⟩
        have hcase : ∀ escape ∈ refusedEscapes, ∃ c' d', escape.toList = ['%', c', d'] ∧
            ([['2', 'e'], ['2', 'f'], ['5', 'c'], ['2', '5']].any fun code =>
              code = [c'.toLower, d'.toLower]) := by simp [refusedEscapes]
        obtain ⟨c', d', htext, hany⟩ := hcase escape hmem
        rw [htext] at hmore
        cases hmore; exact hany
    rw [hasEncodedDelimiter, Bool.or_eq_true, hhere, ih, ← exists_or]
    refine exists_congr fun escape => ?_
    rw [← and_or_left, infix_cons_iff (a := '%')]
  | case2 c rest hescape ih =>
    rw [hasEncodedDelimiter, ih]
    · refine exists_congr fun escape => and_congr_right fun hmem => ?_
      rw [infix_cons_iff (a := c)]
      refine (or_iff_right fun hprefix => ?_).symm
      have hlong : ∀ escape ∈ refusedEscapes, ∃ d e, escape.toList = ['%', d, e] := by
        simp [refusedEscapes]
      obtain ⟨d, e, htext⟩ := hlong escape hmem
      rw [htext] at hprefix
      obtain ⟨more, hmore⟩ := hprefix
      obtain ⟨rfl, hrest⟩ := List.cons.inj hmore
      exact hescape d e more rfl hrest.symm
    · exact hescape
  | case3 => exact iff_of_false (by simp [hasEncodedDelimiter]) (by simp [refusedEscapes])

lemma refusedTarget_iff {raw : String} :
    (hasEncodedDelimiter (raw.toList.takeWhile (· ≠ '?')) ||
      hasDotSegment (raw.toList.takeWhile (· ≠ '?')) || '\\' ∈ raw.toList.takeWhile (· ≠ '?') ||
      Char.ofNat 0 ∈ raw.toList.takeWhile (· ≠ '?')) ↔ RefusedTarget raw := by
  unfold RefusedTarget
  simp only [Bool.or_assoc, Bool.or_eq_true, decide_eq_true_eq, hasEncodedDelimiter_iff]

end Refused

section Joined

variable {platform : Platform} {route : RouteRuntime} {suffix search raw pathname canonical : String}
  {base below : List Char}

lemma textAfter_isSome (start text : List Char) :
    (textAfter start text).isSome ↔ start <+: text := by
  unfold textAfter
  split
  · next hprefix => simpa using hprefix
  · next hprefix => simpa using hprefix

lemma startsWithV1_iff :
    (suffix = "/v1" ∨ (textAfter "/v1/".toList suffix.toList).isSome) ↔
      StartsWithV1 suffix.toList := by
  rw [textAfter_isSome, ← toList_inj]; rfl

lemma basePath_end (text : List Char) : basePath pathname ≠ text ++ ['/'] := by
  intro h
  have hreverse := congrArg List.reverse h
  simp only [basePath, reverse_reverse, reverse_append, reverse_singleton,
    singleton_append] at hreverse
  have hhead := List.head?_dropWhile_not (· = '/') pathname.toList.reverse
  simp [hreverse] at hhead

lemma withoutTrailingSlashes_eq :
    withoutTrailingSlashes pathname =
      if basePath pathname = [] then "/" else String.ofList (basePath pathname) := by
  simp [withoutTrailingSlashes, basePath]

lemma belowBase_starts (hsuffix : suffix.toList.head? = some '/') :
    belowBase route base suffix.toList = [] ∨
      ∃ rest, belowBase route base suffix.toList = '/' :: rest := by
  obtain ⟨rest, hrest⟩ := List.head?_eq_some_iff.mp hsuffix
  unfold belowBase
  split
  · exact .inr ⟨rest, hrest⟩
  split
  · exact .inl rfl
  split
  · next hv1 =>
    obtain hwhole | ⟨rest', hrest'⟩ := hv1.2
    · exact .inl (by rw [hwhole]; rfl)
    · exact .inr ⟨rest', by rw [← hrest']; rfl⟩
  · exact .inr ⟨rest, hrest⟩

theorem joinedPath_eq (hsuffix : suffix.toList.head? = some '/') :
    joinedPath route (withoutTrailingSlashes pathname) suffix =
      String.ofList (basePath pathname ++ belowBase route (basePath pathname) suffix.toList) := by
  rw [withoutTrailingSlashes_eq]
  by_cases hroot : basePath pathname = []
  · have hne : suffix ≠ "" := by
      rintro rfl; cases hsuffix
    by_cases hslash : suffix = "/"
    · subst hslash; simp [joinedPath, translatedSuffix, belowBase, hroot]
    · simp [joinedPath, translatedSuffix, belowBase, hroot, hslash, hne]
  · have hbase : String.ofList (basePath pathname) ≠ "/" := fun h =>
      basePath_end [] (by simpa using congrArg String.toList h)
    by_cases hslash : suffix = "/"
    · subst hslash; simp [joinedPath, translatedSuffix, belowBase, hroot, hbase, textAfter]
    · have hchars : suffix.toList ≠ ['/'] := fun h => hslash (toList_injective h)
      simp only [joinedPath, translatedSuffix, belowBase, if_neg hroot, if_neg hslash,
        if_neg hchars, startsWithV1_iff, hbase, ne_eq, not_false_eq_true, true_and, if_false]
      split
      · rw [ofList_append]
      · rw [ofList_append, ofList_toList]

/-- A canonical text is under the base, so the test that comes last never fails. -/
lemma containedPath_eq (hsuffix : suffix.toList.head? = some '/')
    (hcanonical : platform.canonicalPathname (String.ofList (basePath pathname ++
      belowBase route (basePath pathname) suffix.toList)) = some canonical) :
    containedPath platform (withoutTrailingSlashes pathname)
        (joinedPath route (withoutTrailingSlashes pathname) suffix) =
      if canonical.toList = basePath pathname ++
          belowBase route (basePath pathname) suffix.toList then .ok canonical
      else .error routePathNotFound := by
  rw [joinedPath_eq hsuffix, containedPath, hcanonical]
  have hiff : canonical = String.ofList (basePath pathname ++
      belowBase route (basePath pathname) suffix.toList) ↔ canonical.toList =
      basePath pathname ++ belowBase route (basePath pathname) suffix.toList := by
    rw [← toList_inj, toList_ofList]
  simp only [hiff]
  split
  · next h => rw [if_pos h.1]
  · next hnot =>
    refine (if_neg fun h => hnot ⟨h, ?_⟩).symm
    rw [withoutTrailingSlashes_eq]
    split
    · exact .inl rfl
    · rw [textAfter_isSome, h, ← toList_inj, ← toList_inj, h, toList_append,
        toList_ofList]
      have hstarts : belowBase route (basePath pathname) suffix.toList = [] ∨ _ :=
        belowBase_starts hsuffix
      obtain hnone | ⟨rest, hrest⟩ := hstarts
      · exact .inr (.inl (by rw [hnone, append_nil]))
      · exact .inr (.inr ⟨rest, by rw [hrest]; simp⟩)

lemma buildContainedForwardPath_eq (hrefused : ¬RefusedTarget raw)
    (hpathname : platform.endpointPathname route.targetBaseUrl = some pathname) :
    buildContainedForwardPath platform route suffix search raw =
      (containedPath platform (withoutTrailingSlashes pathname)
        (joinedPath route (withoutTrailingSlashes pathname) suffix)).map (· ++ search) := by
  unfold buildContainedForwardPath
  rw [if_neg (mt refusedTarget_iff.mp hrefused), hpathname]
  dsimp only
  cases containedPath platform (withoutTrailingSlashes pathname)
    (joinedPath route (withoutTrailingSlashes pathname) suffix) with
  | error response => rfl
  | ok canonical => rfl

lemma routeMatch_suffix {requestPathname routeId : String} {rest : Option String}
    (h : routeMatch requestPathname = some (routeId, rest)) :
    (rest.getD "/").toList.head? = some '/' ∧ IsBelow requestPathname (rest.getD "/").toList := by
  obtain ⟨text, htext, hmatch⟩ := bind_eq_some_iff.mp h
  dsimp only at hmatch
  split at hmatch
  · cases hmatch
  obtain ⟨-, rfl⟩ := Prod.mk.inj (some.inj hmatch)
  split
  · exact ⟨rfl, .inr (.inl rfl)⟩
  · next hne =>
    rw [Option.getD_some, toList_ofList]
    have hhead : (text.dropWhile (· ≠ '/')).head? = some '/' := by
      obtain ⟨c, rest, hrest⟩ := exists_cons_of_ne_nil hne
      have hhead := List.head?_dropWhile_not (· ≠ '/') text
      rw [hrest] at hhead ⊢; simpa using hhead
    refine ⟨hhead, .inr (.inr ⟨hhead, ?_⟩)⟩
    unfold textAfter at htext
    split at htext
    · cases htext; exact (dropWhile_suffix _).trans (drop_suffix _ _)
    · cases htext

lemma isBelow_belowBase {pathname : String} (h : IsBelow pathname suffix.toList) :
    IsBelow pathname (belowBase route base suffix.toList) := by
  unfold belowBase
  split
  · exact h
  split
  · exact .inl rfl
  split
  · next hv1 =>
    obtain hwhole | ⟨left, hleft⟩ := hv1.2
    · exact .inl (by rw [hwhole]; rfl)
    obtain hnone | hslash | ⟨-, hsuffix⟩ := h
    · rw [hnone] at hleft; cases hleft
    · rw [hslash] at hleft; cases hleft
    · exact .inr (.inr ⟨by rw [← hleft]; rfl, (drop_suffix 3 _).trans hsuffix⟩)
  · exact h

lemma infix_of_cons {spelling text : List Char} {c : Char} (hspelling : spelling.head? = some '%')
    (hc : c ≠ '%') : spelling <:+: c :: text ↔ spelling <:+: text := by
  rw [infix_cons_iff]
  refine or_iff_right fun hprefix => ?_
  obtain ⟨left, rfl⟩ := List.head?_eq_some_iff.mp hspelling
  obtain ⟨more, hmore⟩ := hprefix
  exact hc (List.cons.inj hmore).1.symm

lemma infix_belowBase {spelling : List Char} (hspelling : spelling.head? = some '%')
    (suffix : List Char) :
    spelling <:+: belowBase route base suffix ↔ spelling <:+: suffix := by
  unfold belowBase
  split
  · rfl
  split
  · next hslash =>
    rw [hslash, infix_of_cons hspelling (by decide)]
  split
  · next hv1 =>
    obtain rfl | ⟨left, rfl⟩ := hv1.2
    · show spelling <:+: [] ↔ spelling <:+: '/' :: 'v' :: ['1']
      simp only [infix_of_cons hspelling (c := '/') (by decide),
        infix_of_cons hspelling (c := 'v') (by decide),
        infix_of_cons hspelling (c := '1') (by decide)]
    · show spelling <:+: '/' :: left ↔ spelling <:+: '/' :: 'v' :: '1' :: '/' :: left
      simp only [infix_of_cons hspelling (c := '/') (by decide),
        infix_of_cons hspelling (c := 'v') (by decide),
        infix_of_cons hspelling (c := '1') (by decide)]
  · rfl

lemma parseRoutePutBody_pathname {fields : List (String × Json)}
    (h : parseRoutePutBody platform fields = .ok route) :
    ∃ pathname, platform.endpointPathname route.targetBaseUrl = some pathname := by
  unfold parseRoutePutBody at h
  dsimp only at h
  split at h
  · cases h
  split at h
  · cases h
  split at h
  · cases h
  · next hsome =>
    cases h; exact ne_none_iff_exists'.mp hsome

lemma segments_below (h : below = [] ∨ ∃ rest, below = '/' :: rest) :
    base.splitOn '/' <+: (base ++ below).splitOn '/' ∧
      (hasDotSegment (base ++ below) = false → hasDotSegment below = false) := by
  obtain rfl | ⟨rest, rfl⟩ := h
  · exact ⟨by rw [append_nil], fun _ => rfl⟩
  · have hbelow := splitOn_append_cons_self [] rest (a := '/')
    rw [nil_append] at hbelow
    unfold hasDotSegment
    rw [splitOn_append_cons_self, hbelow, any_append, any_append,
      Bool.or_eq_false_iff, Bool.or_eq_false_iff]
    exact ⟨prefix_append _ _, fun hdots => ⟨rfl, hdots.2⟩⟩

/-- A text that names no host is joined as it is, so only its spellings can do harm. -/
lemma contained_iff (hplatform : platform.Whatwg)
    (hstarts : below = [] ∨ ∃ rest, below = '/' :: rest)
    (hcanonical : platform.canonicalPathname (String.ofList (base ++ below)) =
      some (String.ofList (base ++ below))) :
    Contained base below search.toList (String.ofList (base ++ below) ++ search).toList ↔
      ∀ spelling ∈ slashSpellings, ¬spelling <:+: below := by
  have hdots := hplatform.dots _ _ hcanonical
  rw [toList_ofList] at hdots
  obtain ⟨hsegments, hbelow⟩ := @segments_below base below hstarts
  have hspelled := @shows_slash_iff below
  rw [← not_iff_not, not_or, not_ne_iff, not_ne_iff, ← shows_nothing_iff] at hspelled
  have hnone : (¬∃ spelling ∈ slashSpellings, spelling <:+: below) ↔
      ∀ spelling ∈ slashSpellings, ¬spelling <:+: below := by
    simp only [not_exists, not_and]
  rw [← hnone, ← hspelled]
  refine ⟨fun h => h.decoded, fun h => ⟨?_, hsegments, hbelow hdots, h⟩⟩
  rw [toList_append, toList_ofList]

/-- A request of a registered route is answered as it should be exactly if it is harmless. -/
theorem buildContainedForwardPath_contains_iff {fields : List (String × Json)}
    {routeId requestPathname : String} {rest : Option String} (hplatform : platform.Whatwg)
    (hroute : parseRoutePutBody platform fields = .ok route)
    (hurl : platform.requestUrl raw = some (requestPathname, search))
    (hmatch : routeMatch requestPathname = some (routeId, rest)) :
    Contains platform route (rest.getD "/") search raw ↔
      Harmless platform route (rest.getD "/") raw := by
  obtain ⟨hsuffix, hrequest⟩ := routeMatch_suffix hmatch
  obtain ⟨pathname, hpathname⟩ := parseRoutePutBody_pathname hroute
  by_cases hrefused : RefusedTarget raw
  · unfold Contains buildContainedForwardPath
    rw [if_pos (refusedTarget_iff.mpr hrefused)]
    exact ⟨fun _ => .inl hrefused, fun _ => ⟨_, rfl⟩⟩
  have hstarts := @belowBase_starts route _ (basePath pathname) hsuffix
  have hbelow := @isBelow_belowBase route _ (basePath pathname) _ hrequest
  have hne : basePath pathname ++ belowBase route (basePath pathname) (rest.getD "/").toList ≠ [] := by
    intro hnil
    obtain ⟨hbase, hnone⟩ := append_eq_nil_iff.mp hnil
    rw [belowBase, if_pos hbase] at hnone
    rw [hnone] at hsuffix; cases hsuffix
  unfold Contains Harmless
  rw [buildContainedForwardPath_eq hrefused hpathname]
  simp only [hrefused, false_or, hpathname, Option.some.injEq, forall_eq', exists_eq_left']
  by_cases hhost : NamesHost (basePath pathname ++
      belowBase route (basePath pathname) (rest.getD "/").toList)
  · rw [if_pos hhost]
    -- The parser reads a host, so it gives another path, if it takes the text at all.
    cases hcanonical : platform.canonicalPathname (String.ofList (basePath pathname ++
        belowBase route (basePath pathname) (rest.getD "/").toList)) with
    | none =>
      rw [joinedPath_eq hsuffix, containedPath, hcanonical]
      simp only [Except.map]
      simp
    | some canonical =>
      rw [containedPath_eq hsuffix hcanonical, if_neg]
      · simp only [Except.map]
        exact ⟨fun _ => rfl, fun _ => ⟨_, rfl⟩⟩
      · intro hsame
        refine hplatform.host (String.ofList _) (by rwa [toList_ofList]) ?_
        rw [hcanonical, ← hsame, ofList_toList]
  · rw [if_neg hhost]
    have hcanonical := hplatform.stable hpathname hurl hrefused hbelow hne hhost
    rw [containedPath_eq hsuffix hcanonical, if_pos toList_ofList]
    simp only [Except.map]
    rw [contained_iff hplatform hstarts hcanonical]
    have hhead : ∀ spelling ∈ slashSpellings, spelling.head? = some '%' := by decide
    refine forall₂_congr fun spelling hspelling => ?_
    rw [infix_belowBase (hhead spelling hspelling)]

end Joined

/-- A parser that takes paths without dot segments, as they are. -/
def v1Platform : Platform where
  hmac := fun _ data => data
  requestUrl := fun url => if hasDotSegment url.toList then none else some (url, "")
  endpointPathname := fun _ => some "/v1"
  canonicalPathname := fun text =>
    if hasDotSegment text.toList ∨ NamesHost text.toList then none else some text
  inSubnets := fun _ _ => true
  currentIdentity := ⟨"2", "0"⟩

def v1Fields : List (String × Json) :=
  [("targetBaseUrl", .str "https://api.example.com/v1"), ("providerType", .str "openai"),
    ("credentialValue", .str "key"), ("pinnedAddresses", .arr [.str "203.0.113.7"]),
    ("generation", .str "00000000000000000000000000000000")]

def v1Route : RouteRuntime :=
  ⟨"https://api.example.com/v1", ["203.0.113.7"], .openai, "key",
    "00000000000000000000000000000000"⟩

lemma parse_v1Fields : parseRoutePutBody v1Platform v1Fields = .ok v1Route := by
  decide +kernel

lemma v1Platform_whatwg : v1Platform.Whatwg := by
  refine ⟨fun text canonical h => ?_, fun text hhost h => ?_, fun hbase hurl _ hbelow _ hhost => ?_⟩
  · obtain ⟨hdots, hsame⟩ := ite_none_left_eq_some.mp h
    cases hsame; simpa using (not_or.mp hdots).1
  · exact (ite_none_left_eq_some.mp h).1 (.inr hhost)
  · obtain ⟨hdots, hsame⟩ := ite_none_left_eq_some.mp hurl
    cases hsame
    cases hbase
    refine if_neg (not_or.mpr ⟨?_, by rwa [toList_ofList]⟩)
    rw [toList_ofList]
    obtain rfl | rfl | ⟨hhead, before, hsplit⟩ := hbelow
    · decide
    · decide
    obtain ⟨rest, rfl⟩ := List.head?_eq_some_iff.mp hhead
    unfold hasDotSegment at hdots ⊢
    rw [← hsplit, splitOn_append_cons_self, any_append, Bool.or_eq_true, not_or] at hdots
    rw [splitOn_append_cons_self, any_append, Bool.or_eq_true, not_or]
    exact ⟨by decide, hdots.2⟩

theorem models_contained :
    Contains v1Platform v1Route "/v1/models" "" "/route/r1/v1/models" := by
  have hmatch : routeMatch "/route/r1/v1/models" = some ("r1", some "/v1/models") := by
    decide +kernel
  have hurl : v1Platform.requestUrl "/route/r1/v1/models" = some ("/route/r1/v1/models", "") := by
    decide +kernel
  refine (buildContainedForwardPath_contains_iff v1Platform_whatwg parse_v1Fields hurl hmatch).mpr
    (.inr fun pathname h => ?_)
  obtain rfl : "/v1" = pathname := some.inj h
  decide +kernel

/-- `%2%66` comes through: decoded once it is `%2f`, and decoded twice a slash. -/
theorem spelled_slash_forwarded :
    v1Platform.Whatwg ∧ parseRoutePutBody v1Platform v1Fields = .ok v1Route ∧
      v1Platform.requestUrl "/route/r1/v1/a%2%66b" = some ("/route/r1/v1/a%2%66b", "") ∧
      routeMatch "/route/r1/v1/a%2%66b" = some ("r1", some "/v1/a%2%66b") ∧
      ¬Contains v1Platform v1Route "/v1/a%2%66b" "" "/route/r1/v1/a%2%66b" := by
  refine ⟨v1Platform_whatwg, parse_v1Fields, by decide +kernel, by decide +kernel, fun h => ?_⟩
  have hpath : buildContainedForwardPath v1Platform v1Route "/v1/a%2%66b" ""
      "/route/r1/v1/a%2%66b" = .ok "/v1/a%2%66b" := by decide +kernel
  unfold Contains at h
  rw [hpath] at h
  obtain ⟨pathname, hpathname, hcontained⟩ := h
  cases hpathname; exact absurd hcontained.decoded (by decide +kernel)

end NemoClaw.HttpsPin
