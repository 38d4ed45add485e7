import NemoClaw.Js.StringifyJson
import NemoClaw.Onboard.RecreateJournal
import NemoClaw.Registry.RebuildAuthority

/- What the fingerprint of a value tells.

A string is hashed as it is, any other value as its JSON text with sorted properties. So a
string has the fingerprint of the value that it is the text of, and two properties that
`localeCompare` takes for one keep the order in which they were set.

What is proved: `fingerprint_canonical`, that two strings, or two values that are none,
have one fingerprint only if they are the same up to the order of properties, and always
then if no object has two such properties; and that a registry row is fingerprinted
without its route reservation, with the same two facts.

Correspondence (onboard/sandbox-recreate-transaction.ts ↔ Lean): the functions are those of
`Onboard.RecreateJournal`, with `JSON.stringify` for the text.
-/
namespace NemoClaw.Onboard

open Js Js.Json List

variable {localeLe : String → String → Bool} {numberText : ℚ → String} {sha256 : String → String}

def jsonApi (localeLe : String → String → Bool) (numberText : ℚ → String)
    (sha256 : String → String) : FingerprintApi where
  localeLe := localeLe
  stringify := stringify numberText
  sha256 := sha256

/-- No object has two properties that `localeCompare` takes for one. -/
inductive Apart (localeLe : String → String → Bool) : Json → Prop where
  | null : Apart localeLe .null
  | bool (b : Bool) : Apart localeLe (.bool b)
  | num (q : ℚ) : Apart localeLe (.num q)
  | str (s : String) : Apart localeLe (.str s)
  | arr {xs : List Json} (elements : ∀ x ∈ xs, Apart localeLe x) : Apart localeLe (.arr xs)
  | obj {fields : List (String × Json)}
    (keys : ∀ kv ∈ fields, ∀ kv' ∈ fields, localeLe kv.1 kv'.1 →
      localeLe kv'.1 kv.1 → kv.1 = kv'.1)
    (values : ∀ kv ∈ fields, Apart localeLe kv.2) : Apart localeLe (.obj fields)

section Canonical

variable (api : FingerprintApi)

lemma canonicalJsonValue_arr (xs : List Json) :
    canonicalJsonValue api (.arr xs) = .arr (xs.map (canonicalJsonValue api)) := by
  have hall : canonicalJsonValues api xs = xs.map (canonicalJsonValue api) := by
    induction xs with
    | nil => rw [canonicalJsonValues]; rfl
    | cons x xs ih => rw [canonicalJsonValues, ih]; rfl
  rw [canonicalJsonValue, hall]

def sortedByLocale (localeLe : String → String → Bool) (fields : List (String × Json)) :
    List (String × Json) :=
  fields.insertionSort fun a b => localeLe a.1 b.1

lemma canonicalJsonValue_obj (fields : List (String × Json)) :
    canonicalJsonValue api (.obj fields) =
      .obj (sortedByLocale api.localeLe
        (fields.map fun kv => (kv.1, canonicalJsonValue api kv.2))) := by
  have hall : canonicalJsonFields api fields =
      fields.map fun kv => (kv.1, canonicalJsonValue api kv.2) := by
    induction fields with
    | nil => rw [canonicalJsonFields]; rfl
    | cons kv rest ih => rw [canonicalJsonFields, ih]; rfl
  rw [canonicalJsonValue, hall]; rfl

/-- What the text of a fingerprint says. -/
def hashed (v : Json) : Json := (canonicalJsonValue api v).ordered

lemma hashed_kind (v : Json) : (hashed api v).kind = v.kind := by
  unfold hashed
  cases v with
  | arr xs => rw [canonicalJsonValue_arr, ordered_arr]; rfl
  | obj fields => rw [canonicalJsonValue_obj, ordered_obj]; rfl
  | _ => simp [canonicalJsonValue, ordered, Json.kind]

lemma hashed_arr (xs : List Json) : hashed api (.arr xs) = .arr (xs.map (hashed api)) := by
  unfold hashed
  rw [canonicalJsonValue_arr, ordered_arr, map_map]; rfl

/-- An object is written with the same properties in another order. -/
lemma hashed_obj {fields : List (String × Json)} (hkeys : (fields.map (·.1)).Nodup) :
    ∃ written, hashed api (.obj fields) = .obj written ∧
      written.Perm (fields.map fun kv => (kv.1, hashed api kv.2)) := by
  have hsorted := perm_insertionSort (fun a b : String × Json => api.localeLe a.1 b.1)
    (fields.map fun kv => (kv.1, canonicalJsonValue api kv.2))
  have hnodup : (((sortedByLocale api.localeLe
      (fields.map fun kv => (kv.1, canonicalJsonValue api kv.2)))).map (·.1)).Nodup := by
    refine (hsorted.map (·.1)).nodup_iff.mpr ?_
    rwa [map_map]
  refine ⟨_, by unfold hashed; rw [canonicalJsonValue_obj, ordered_obj], ?_⟩
  have hperm := ((inOrder_perm hnodup).trans hsorted).map fun kv => (kv.1, kv.2.ordered)
  rwa [map_map] at hperm

/-- Two names are written in the order in which `localeCompare` finds them. -/
lemma hashed_pair {a b : String} (hne : b ≠ a) (ha : arrayIndex? a = none)
    (hb : arrayIndex? b = none) (hle : api.localeLe a b) (x y : Json) :
    hashed api (.obj [(a, x), (b, y)]) = .obj [(a, hashed api x), (b, hashed api y)] := by
  have hsorted : sortedByLocale api.localeLe ([(a, x), (b, y)].map fun kv =>
      (kv.1, canonicalJsonValue api kv.2)) =
        [(a, canonicalJsonValue api x), (b, canonicalJsonValue api y)] := by
    simp [sortedByLocale, hle]
  unfold hashed
  rw [canonicalJsonValue_obj, hsorted, ordered_obj, inOrder, ownKeys_of_names (by simp [ha, hb])]
  simp [lookup_cons_if, hne]

end Canonical

section Lookups

variable {fields fields' : List (String × Json)}

lemma rel_lookup {R S : Json → Json → Prop} {k : String}
    (h : Option.Rel R (fields.lookup k) (fields'.lookup k))
    (himp : ∀ kv ∈ fields, ∀ kv' ∈ fields', R kv.2 kv'.2 → S kv.2 kv'.2) :
    Option.Rel S (fields.lookup k) (fields'.lookup k) := by
  cases hx : fields.lookup k <;> cases hy : fields'.lookup k <;> rw [hx, hy] at h <;> cases h
  · exact .none
  · next hxy => exact .some (himp _ (mem_of_lookup hx) _ (mem_of_lookup hy) hxy)

lemma map_eq_iff_rel {f : Json → Json} {x y : Option Json} :
    x.map f = y.map f ↔ Option.Rel (fun x y => f x = f y) x y := by
  cases x <;> cases y <;> simp

end Lookups

lemma same_of_hashed_eq (api : FingerprintApi) {v : Json} (hv : v.Keyed) :
    ∀ {w : Json}, w.Keyed → hashed api v = hashed api w → v.Reordered w := by
  induction hv with
  | @arr xs _ ih =>
    intro w hw heq
    have hkind := (hashed_kind api _).symm.trans ((congrArg kind heq).trans (hashed_kind api w))
    cases hw with
    | arr helements' =>
      rw [hashed_arr, hashed_arr] at heq
      exact .arr (forall₂_imp_of_mem (map_eq_map_iff.mp (Json.arr.inj heq))
        fun x hx y hy => ih x hx (helements' y hy))
    | _ => cases hkind
  | @obj fields hkeys _ ih =>
    intro w hw heq
    have hkind := (hashed_kind api _).symm.trans ((congrArg kind heq).trans (hashed_kind api w))
    cases hw with
    | @obj fields' hkeys' hvalues' =>
      obtain ⟨written, hwritten, hperm⟩ := hashed_obj api hkeys
      obtain ⟨written', hwritten', hperm'⟩ := hashed_obj api hkeys'
      rw [hwritten, hwritten'] at heq
      have hlookup := (perm_iff_lookup (by rwa [map_map]) (by rwa [map_map])).mp
        (hperm.symm.trans (Json.obj.inj heq ▸ hperm'))
      refine .obj fun k => ?_
      have hk := hlookup k
      rw [lookup_map_second, lookup_map_second] at hk
      exact rel_lookup (map_eq_iff_rel.mp hk) fun kv hkv kv' hkv' => ih kv hkv (hvalues' kv' hkv')
    | _ => cases hkind
  | _ =>
    intro w hw heq
    have hkind := (hashed_kind api _).symm.trans ((congrArg kind heq).trans (hashed_kind api w))
    cases hw <;> simp_all [hashed, canonicalJsonValue, ordered, Json.kind]; constructor

section Order

variable (htotal : ∀ s t, localeLe s t ∨ localeLe t s)
  (htrans : ∀ s t u, localeLe s t → localeLe t u → localeLe s u)
include htotal htrans

lemma sortedByLocale_eq {fields fields' : List (String × Json)}
    (hties : ∀ kv ∈ fields, ∀ kv' ∈ fields, localeLe kv.1 kv'.1 →
      localeLe kv'.1 kv.1 → kv.1 = kv'.1)
    (hkeys : (fields.map (·.1)).Nodup) (hperm : fields.Perm fields') :
    sortedByLocale localeLe fields = sortedByLocale localeLe fields' := by
  have htotal' : Std.Total fun a b : String × Json => localeLe a.1 b.1 :=
    ⟨fun a b => htotal a.1 b.1⟩
  have htrans' : IsTrans (String × Json) fun a b => localeLe a.1 b.1 :=
    ⟨fun a b c => htrans a.1 b.1 c.1⟩
  have hsorted := perm_insertionSort fun a b : String × Json => localeLe a.1 b.1
  refine Perm.eq_of_pairwise ?_ (pairwise_insertionSort _ _)
    (pairwise_insertionSort _ _) ((hsorted _).trans (hperm.trans (hsorted _).symm))
  intro a b ha hb hab hba
  have ha := (hsorted _).mem_iff.mp ha
  have hb := hperm.mem_iff.mpr ((hsorted _).mem_iff.mp hb)
  exact inj_on_of_nodup_map hkeys ha hb (hties a ha b hb hab hba)

lemma canonicalJsonValue_eq_of_same {api : FingerprintApi}
    (hlocale : api.localeLe = localeLe) {v : Json} (hv : v.Keyed) :
    ∀ {w : Json}, Apart localeLe v → w.Keyed → v.Reordered w →
      canonicalJsonValue api v = canonicalJsonValue api w := by
  induction hv with
  | @arr xs _ ih =>
    intro w hapart hw hsame
    cases hsame with
    | arr elements =>
      cases hapart with
      | arr hapart =>
        cases hw with
        | arr helements' =>
          rw [canonicalJsonValue_arr, canonicalJsonValue_arr, map_eq_map_iff.mpr
            (forall₂_imp_of_mem elements fun x hx y hy hxy =>
              ih x hx (hapart x hx) (helements' y hy) hxy)]
  | @obj fields hkeys _ ih =>
    intro w hapart hw hsame
    cases hsame with
    | @obj _ fields' values =>
      cases hapart with
      | obj hties hapart =>
        cases hw with
        | obj hkeys' hvalues' =>
          have hperm : (fields.map fun kv => (kv.1, canonicalJsonValue api kv.2)).Perm
              (fields'.map fun kv => (kv.1, canonicalJsonValue api kv.2)) := by
            refine (perm_iff_lookup (by rwa [map_map]) (by rwa [map_map])).mpr fun k => ?_
            rw [lookup_map_second, lookup_map_second]
            exact map_eq_iff_rel.mpr (rel_lookup (values k) fun kv hkv kv' hkv' =>
              ih kv hkv (hapart kv hkv) (hvalues' kv' hkv'))
          rw [canonicalJsonValue_obj, canonicalJsonValue_obj]
          refine congrArg Json.obj (hlocale ▸ sortedByLocale_eq htotal htrans ?_ ?_ hperm)
          · intro kv hkv kv' hkv'
            obtain ⟨x, hx, rfl⟩ := mem_map.mp hkv
            obtain ⟨y, hy, rfl⟩ := mem_map.mp hkv'
            exact hties x hx y hy
          · rwa [map_map]
  | _ =>
    intro w _ _ hsame
    cases hsame; rfl

end Order

lemma fingerprint_of_not_str {api : FingerprintApi} {v : Json} (hv : v.kind ≠ 3) :
    fingerprintSandboxRecreateValue api v =
      api.sha256 (api.stringify (canonicalJsonValue api v)) := by
  cases v with
  | str s => exact absurd rfl hv
  | _ => rfl

/-- The fingerprint of a value that is not a string tells it, up to the order of properties. -/
lemma same_of_fingerprint_eq (hsha256 : Function.Injective sha256)
    (hnumber : NumberText numberText) {x y : Json} (hx : x.Keyed) (hy : y.Keyed)
    (hkind : x.kind = 3 ↔ y.kind = 3)
    (h : fingerprintSandboxRecreateValue (jsonApi localeLe numberText sha256) x =
      fingerprintSandboxRecreateValue (jsonApi localeLe numberText sha256) y) : x.Reordered y := by
  by_cases hstr : x.kind = 3
  · cases x with
    | str s =>
      cases y with
      | str t =>
        obtain rfl : s = t := hsha256 h
        exact .str s
      | _ => cases hkind.mp hstr
    | _ => cases hstr
  rw [fingerprint_of_not_str hstr, fingerprint_of_not_str (mt hkind.mpr hstr)] at h
  exact same_of_hashed_eq _ hx hy (ordered_of_stringify_eq hnumber (hsha256 h))

lemma fingerprint_eq_of_same
    (htotal : ∀ s t, localeLe s t ∨ localeLe t s)
    (htrans : ∀ s t u, localeLe s t → localeLe t u → localeLe s u)
    {x y : Json} (hx : x.Keyed) (hy : y.Keyed) (hapart : Apart localeLe x) (h : x.Reordered y) :
    fingerprintSandboxRecreateValue (jsonApi localeLe numberText sha256) x =
      fingerprintSandboxRecreateValue (jsonApi localeLe numberText sha256) y := by
  have hcanonical : canonicalJsonValue (jsonApi localeLe numberText sha256) x =
      canonicalJsonValue (jsonApi localeLe numberText sha256) y :=
    canonicalJsonValue_eq_of_same htotal htrans rfl hx hapart hy h
  cases h with
  | arr | obj => exact congrArg (fun v => sha256 (stringify numberText v)) hcanonical
  | _ => rfl

/-- The row without its route reservation. -/
def durable (entry : SandboxEntry) : Json :=
  .obj (entry.filter fun kv => kv.1 ∉ routeReservationFields)

lemma durable_same_iff {entry entry' : SandboxEntry} :
    (durable entry).Reordered (durable entry') ↔ ∀ k, k ∉ routeReservationFields →
      Option.Rel Json.Reordered (entry.lookup k) (entry'.lookup k) := by
  have hlookup := lookup_filter_key (α := Json) fun name => decide (name ∉ routeReservationFields)
  constructor
  · intro h k hk
    cases h with
    | obj values =>
      have hvalues := values k
      rwa [hlookup, hlookup, if_pos (by simpa using hk), if_pos (by simpa using hk)] at hvalues
  · intro h
    refine .obj fun k => ?_
    rw [hlookup, hlookup]
    split
    · next hk => exact h k (by simpa using hk)
    · exact .none

lemma durable_keyed {entry : SandboxEntry} (h : (Json.obj entry).Keyed) :
    (durable entry).Keyed := by
  cases h with
  | obj keys values =>
    exact .obj (keys.sublist (filter_sublist.map _)) fun kv hkv =>
      values kv (mem_filter.mp hkv).1

/-- Two strings, or two other values, with one fingerprint are the same up to the order of
properties; the other way round if no two properties tie. So are two rows, without their
reservations. -/
theorem fingerprint_canonical (hsha256 : Function.Injective sha256)
    (hnumber : NumberText numberText)
    (htotal : ∀ s t, localeLe s t ∨ localeLe t s)
    (htrans : ∀ s t u, localeLe s t → localeLe t u → localeLe s u) :
    (∀ x y : Json, x.Keyed → y.Keyed → (x.kind = 3 ↔ y.kind = 3) →
      (fingerprintSandboxRecreateValue (jsonApi localeLe numberText sha256) x =
        fingerprintSandboxRecreateValue (jsonApi localeLe numberText sha256) y → x.Reordered y) ∧
      (Apart localeLe x → x.Reordered y →
        fingerprintSandboxRecreateValue (jsonApi localeLe numberText sha256) x =
          fingerprintSandboxRecreateValue (jsonApi localeLe numberText sha256) y)) ∧
    ∀ entry entry' : SandboxEntry, (Json.obj entry).Keyed → (Json.obj entry').Keyed →
      (fingerprintSandboxRegistryEntry (jsonApi localeLe numberText sha256) entry =
        fingerprintSandboxRegistryEntry (jsonApi localeLe numberText sha256) entry' →
          ∀ k, k ∉ routeReservationFields →
            Option.Rel Json.Reordered (entry.lookup k) (entry'.lookup k)) ∧
      (Apart localeLe (durable entry) → (∀ k, k ∉ routeReservationFields →
          Option.Rel Json.Reordered (entry.lookup k) (entry'.lookup k)) →
        fingerprintSandboxRegistryEntry (jsonApi localeLe numberText sha256) entry =
          fingerprintSandboxRegistryEntry (jsonApi localeLe numberText sha256) entry') := by
  refine ⟨fun x y hx hy hkind => ⟨same_of_fingerprint_eq hsha256 hnumber hx hy hkind,
    fingerprint_eq_of_same htotal htrans hx hy⟩, fun entry entry' hkeyed hkeyed' => ⟨?_, ?_⟩⟩
  · intro h
    exact durable_same_iff.mp (same_of_fingerprint_eq hsha256 hnumber (durable_keyed hkeyed)
      (durable_keyed hkeyed') Iff.rfl h)
  · intro hapart h
    exact fingerprint_eq_of_same htotal htrans (durable_keyed hkeyed) (durable_keyed hkeyed')
      hapart (durable_same_iff.mpr h)

abbrev textApi : FingerprintApi := jsonApi (fun s t => decide (compareLe s t)) listedText id

/-- A text in which U+0065 U+0301 is written U+00E9: `localeCompare` takes both for one. -/
def composed : List Char → List Char
  | 'e' :: '\u0301' :: rest => 'é' :: composed rest
  | c :: rest => c :: composed rest
  | [] => []

abbrev composedApi : FingerprintApi :=
  jsonApi (fun s t => decide (compareLe (.ofList (composed s.toList)) (.ofList (composed t.toList))))
    listedText id

/-- The string `null` has the fingerprint of `null`, and an object with two names that
`localeCompare` takes for one has another in their other order. -/
theorem fingerprint_of_text :
    (fingerprintSandboxRecreateValue textApi (.str "null") =
      fingerprintSandboxRecreateValue textApi .null ∧ ¬ (Json.str "null").Reordered .null) ∧
    fingerprintSandboxRecreateValue composedApi (.obj [("e\u0301", .null), ("é", .bool true)]) ≠
      fingerprintSandboxRecreateValue composedApi (.obj [("é", .bool true), ("e\u0301", .null)]) ∧
    Json.Reordered (.obj [("e\u0301", .null), ("é", .bool true)])
      (.obj [("é", .bool true), ("e\u0301", .null)]) := by
  refine ⟨⟨?_, nofun⟩, ?_, .obj fun k => ?_⟩
  · simp [fingerprintSandboxRecreateValue, jsonApi, canonicalJsonValue, stringify]
  · intro h
    rw [fingerprint_of_not_str (by decide), fingerprint_of_not_str (by decide)] at h
    have heq : hashed composedApi _ = hashed composedApi _ :=
      ordered_of_stringify_eq listedText_numberText h
    -- neither name goes before the other in the sort, so each object is written as it stands
    have htwo : arrayIndex? "e\u0301" = none := arrayIndex?_eq_none (c := 'e') (by decide) (by decide)
    have hone : arrayIndex? "é" = none := arrayIndex?_eq_none (c := 'é') (by decide) (by decide)
    rw [hashed_pair _ (by decide) htwo hone (by decide +kernel),
      hashed_pair _ (by decide) hone htwo (by decide +kernel)] at heq
    exact absurd (Json.obj.inj heq) (by simp)
  · simp only [lookup_cons_if]
    by_cases hk : k = "é"
    · subst hk; exact .some (.bool true)
    · rw [if_neg hk, if_neg hk]
      split
      · exact .some .null
      · exact .none

/-- Two rows that differ in their providers and the order of the other properties. -/
theorem fingerprint_canonical_reordered :
    fingerprintSandboxRegistryEntry textApi
        [("name", .str "alpha"), ("provider", .str "ollama"), ("gpuEnabled", .bool true)] =
      fingerprintSandboxRegistryEntry textApi
        [("gpuEnabled", .bool true), ("name", .str "alpha")] := by
  refine ((fingerprint_canonical Function.injective_id listedText_numberText
    (fun s t => by simpa using Std.Total.total s t)
    (fun s t u hst htu => by
      simp only [decide_eq_true_eq] at hst htu ⊢
      exact le_trans hst htu)).2 _ _ (.obj (by decide) ?_) (.obj (by decide) ?_)).2
      (.obj ?_ ?_) ?_
  · simp [Keyed.str, Keyed.bool]
  · simp [Keyed.str, Keyed.bool]
  · decide
  · intro kv hkv
    have : kv = ("name", .str "alpha") ∨ kv = ("gpuEnabled", .bool true) := by
      simpa [routeReservationFields] using hkv
    rcases this with rfl | rfl
    · exact .str _
    · exact .bool _
  · intro k hk
    have hprovider : k ≠ "provider" := by
      rintro rfl
      exact hk (by decide)
    simp only [lookup_cons_if, if_neg hprovider]
    by_cases hname : k = "name"
    · subst hname; exact .some (.str _)
    · rw [if_neg hname, if_neg hname]
      split
      · exact .some (.bool _)
      · exact .none

end NemoClaw.Onboard
