import NemoClaw.Inference.ServingMatching
import NemoClaw.Lib.Priority

/- What the resolver of managed inference selects without explicit intent.

What is proved of a compiled catalog:
  1. `evaluateAutomatic_eq`, `chooseCandidate_eq` — the loop finds the presets that match,
     and the choice is made among those of the highest priority.
  2. `resolve_selected` — a preset is selected if it is `Chosen`.
  3. `resolve_perm` — reports, artifacts and presets may come in any order.
  4. `resolve_naming` — a preset that is selected can also be named.
  5. `resolveManagedInferenceServing_exact` — all of this together.
-/
namespace NemoClaw.Serving

open Js ClusterTopology List Option

/-- The input with a preset asked for by name. -/
def Input.naming (input : Input) (presetId : String) : Input :=
  { input with intent := some { input.intent.getD .none with preset := some presetId } }

/-- The resolution without the text of its message. -/
def Resolution.withoutMessage : Resolution → Resolution
  | .selected result => .selected result
  | .noMatch code _ => .noMatch code ""
  | .rejected code _ => .rejected code ""

section Choice

variable {host : Host} {adapters : Adapters} {catalog : Catalog} {input : Input}

/-- What an automatic preset gives; `pick` reads it off its evaluation. -/
def ofAutomatic {β : Type} (pick : Evaluation Candidate → Option β) (host : Host)
    (adapters : Adapters) (catalog : Catalog) (input : Input) (p : Preset) : Option β :=
  if p.selection = .automatic then
    match matchingCandidate host adapters catalog p input with
    | .ok evaluated => pick evaluated
    | .error _ => none
  else none

/-- The candidate of a preset that matched. -/
def Evaluation.matched? {α : Type} : Evaluation α → Option α
  | .matched value => some value
  | _ => none

/-- The message of a topology that is not valid. -/
def Evaluation.invalid? {α : Type} : Evaluation α → Option String
  | .invalidTopology message => some message
  | _ => none

/-- The candidate of an automatic preset, if it matches. -/
def automaticCandidate : Host → Adapters → Catalog → Input → Preset → Option Candidate :=
  ofAutomatic Evaluation.matched?

/-- Why an automatic preset has no valid topology. -/
def automaticInvalid : Host → Adapters → Catalog → Input → Preset → Option String :=
  ofAutomatic Evaluation.invalid?

lemma ofAutomatic_eq_some {β : Type} {pick : Evaluation Candidate → Option β} {p : Preset}
    {b : β} : ofAutomatic pick host adapters catalog input p = some b ↔
      p.selection = .automatic ∧ ∃ evaluated,
        matchingCandidate host adapters catalog p input = .ok evaluated ∧
        pick evaluated = some b := by
  unfold ofAutomatic
  by_cases hautomatic : p.selection = .automatic
  · rw [if_pos hautomatic]
    cases matchingCandidate host adapters catalog p input with
    | error message =>
      constructor
      · intro heq; cases heq
      · intro ⟨_, evaluated, heq, _⟩; cases heq
    | ok evaluated =>
      constructor
      · intro heq; exact ⟨hautomatic, evaluated, rfl, heq⟩
      · intro ⟨_, evaluated', heq, hpick⟩
        cases heq; exact hpick
  · rw [if_neg hautomatic]
    constructor
    · intro heq; cases heq
    · intro h; exact absurd h.1 hautomatic

lemma automaticCandidate_eq_some {p : Preset} {c : Candidate} :
    automaticCandidate host adapters catalog input p = some c ↔ p.selection = .automatic ∧
      matchingCandidate host adapters catalog p input = .ok (.matched c) := by
  unfold automaticCandidate
  rw [ofAutomatic_eq_some]
  constructor
  · intro ⟨hautomatic, evaluated, heq, hpick⟩
    cases evaluated with
    | matched c' => cases hpick; exact ⟨hautomatic, heq⟩
    | _ => cases hpick
  · intro ⟨hautomatic, heq⟩; exact ⟨hautomatic, _, heq, rfl⟩

lemma automaticInvalid_eq_some {p : Preset} {message : String} :
    automaticInvalid host adapters catalog input p = some message ↔ p.selection = .automatic ∧
      matchingCandidate host adapters catalog p input = .ok (.invalidTopology message) := by
  unfold automaticInvalid
  rw [ofAutomatic_eq_some]
  constructor
  · intro ⟨hautomatic, evaluated, heq, hpick⟩
    cases evaluated with
    | invalidTopology message' => cases hpick; exact ⟨hautomatic, heq⟩
    | _ => cases hpick
  · intro ⟨hautomatic, heq⟩; exact ⟨hautomatic, _, heq, rfl⟩

/-- The loop collects the candidates, and the first topology that is not valid. -/
theorem evaluateAutomatic_eq {presets : List Preset}
    (hok : ∀ p ∈ presets, ∃ e, matchingCandidate host adapters catalog p input = .ok e) :
    evaluateAutomatic host adapters catalog input presets =
      .ok (presets.filterMap (automaticCandidate host adapters catalog input),
        presets.findSome? (automaticInvalid host adapters catalog input)) := by
  induction presets with
  | nil => rfl
  | cons p rest ih =>
    obtain ⟨⟨e, he⟩, hrest⟩ := forall_mem_cons.mp hok
    rw [evaluateAutomatic, ih hrest, filterMap_cons, List.findSome?_cons]
    unfold automaticCandidate automaticInvalid ofAutomatic
    by_cases hautomatic : p.selection = .automatic
    · rw [if_neg (not_not.mpr hautomatic), if_pos hautomatic, if_pos hautomatic, he]
      cases e with
      | _ => rfl
    · rw [if_pos hautomatic, if_neg hautomatic, if_neg hautomatic]

instance : Std.Total Candidate.before := by
  refine ⟨fun a b => ?_⟩
  unfold Candidate.before
  rcases lt_trichotomy a.priority b.priority with hlt | heq | hgt
  · exact .inr (.inl hlt)
  · rcases Std.Total.total (r := compareLe) a.preset.id b.preset.id with hle | hle
    · exact .inl (.inr ⟨heq, hle⟩)
    · exact .inr (.inr ⟨heq.symm, hle⟩)
  · exact .inl (.inl hgt)

instance : IsTrans Candidate Candidate.before := by
  refine ⟨fun a b c hab hbc => ?_⟩
  unfold Candidate.before at *
  rcases hab with hab | ⟨hab, hid⟩
  · rcases hbc with hbc | ⟨hbc, -⟩
    · exact .inl (lt_trans hbc hab)
    · exact .inl (hbc ▸ hab)
  · rcases hbc with hbc | ⟨hbc, hid'⟩
    · exact .inl (hab ▸ hbc)
    · exact .inr ⟨hab.trans hbc, IsTrans.trans _ _ _ hid hid'⟩

/-- What comes first has no lower priority. -/
lemma before_priority (a b : Candidate) (h : Candidate.before a b) :
    b.priority ≤ a.priority := by
  rcases h with hlt | ⟨heq, -⟩
  · exact le_of_lt hlt
  · exact le_of_eq heq.symm

/-- The candidates of the highest priority, their ids in order. -/
def leading (matching : List Candidate) : List Candidate :=
  Priority.leaders Candidate.priority Candidate.before matching

/-- What the automatic selection makes of the candidates that match. -/
def choice (catalog : Catalog) : List Candidate → Resolution
  | [] => .noMatch .requirementsNotMet ""
  | [candidate] => (selectedResolution catalog candidate .automatic).withoutMessage
  | _ => .rejected .ambiguousSelection ""

/-- The choice depends on the candidates of the highest priority only. -/
theorem chooseCandidate_eq (matching : List Candidate) :
    (chooseCandidate host catalog matching).withoutMessage =
      choice catalog (leading matching) := by
  unfold chooseCandidate leading Priority.leaders
  cases matching.insertionSort Candidate.before with
  | nil => rfl
  | cons first rest =>
  dsimp only
  have hfirst : first ∈ (first :: rest).filter fun c => c.priority = first.priority :=
    mem_filter.mpr ⟨mem_cons_self, decide_eq_true rfl⟩
  split
  · next heq => rw [heq]; rfl
  next hno =>
  revert hno hfirst
  generalize (first :: rest).filter (fun c => decide (c.priority = first.priority)) = tied
  intro hfirst hno
  cases tied with
  | nil => exact absurd hfirst not_mem_nil
  | cons c more =>
    cases more with
    | nil => exact absurd rfl (hno c)
    | cons _ _ => rfl

/-- Their order does not matter. -/
lemma choice_perm {l l' : List Candidate} (h : l.Perm l') :
    choice catalog l = choice catalog l' := by
  cases l with
  | nil => rw [h.symm.eq_nil]
  | cons a rest =>
  cases rest with
  | nil => rw [perm_singleton.mp h.symm]
  | cons b more =>
  have hlength := h.length_eq
  cases l' with
  | nil => cases hlength
  | cons a' rest' =>
    cases rest' with
    | nil => cases hlength
    | cons b' more' => rfl

end Choice

/-! ## The selection -/

section Exact

variable {host : Host} {adapters : Adapters} {clock : ℚ} {catalog : Catalog} {input : Input}

/-- The freshness policy is valid, and the reports pass the validation. -/
def ReportsPass (host : Host) (clock : ℚ) (input : Input) : Prop :=
  ∃ nowMs maxAgeMs, input.now.getD (some clock) = some nowMs ∧
    input.maxReadinessAgeMs.getD (some DEFAULT_READINESS_MAX_AGE_MS) = some maxAgeMs ∧
    0 ≤ maxAgeMs ∧ (input.readinessReports.map (·.nodeId)).Nodup ∧
    ∀ source ∈ input.readinessReports, readinessError host nowMs maxAgeMs source = none

/-- A preset that the automatic selection takes: it matches, and every other match has a lower
priority. -/
structure Chosen (host : Host) (adapters : Adapters) (clock : ℚ) (catalog : Catalog)
    (input : Input) (p : Preset) : Prop where
  reports : ReportsPass host clock input
  topologies : ∀ q ∈ catalog.presets, q.selection = .automatic → ∀ message,
    matchingCandidate host adapters catalog q input ≠ .ok (.invalidTopology message)
  inCatalog : p ∈ catalog.presets
  automatic : p.selection = .automatic
  requirements : p.Matches host input
  above : ∀ q ∈ catalog.presets, q ≠ p → q.selection = .automatic → q.Matches host input →
    q.priority < p.priority

lemma readinessFailure_eq_none :
    readinessFailure host clock input = none ↔ ReportsPass host clock input := by
  unfold readinessFailure ReportsPass
  cases hmax : input.maxReadinessAgeMs.getD (some DEFAULT_READINESS_MAX_AGE_MS) with
  | none =>
    refine ⟨nofun, fun h => ?_⟩
    obtain ⟨_, _, -, heq, -⟩ := h; cases heq
  | some maxAgeMs =>
    cases hnow : input.now.getD (some clock) with
    | none =>
      refine ⟨nofun, fun h => ?_⟩
      obtain ⟨_, _, heq, -⟩ := h; cases heq
    | some nowMs =>
      dsimp only
      unfold readinessReportsError
      by_cases hneg : maxAgeMs < 0
      · rw [if_pos hneg]
        refine ⟨nofun, fun h => ?_⟩
        obtain ⟨_, _, -, heq, hle, -⟩ := h
        cases heq; exact absurd hneg (not_lt.mpr hle)
      · rw [if_neg hneg]
        by_cases hids : (input.readinessReports.map (·.nodeId)).Nodup
        · rw [if_pos hids, List.findSome?_eq_none_iff]
          constructor
          · intro hall; exact ⟨nowMs, maxAgeMs, rfl, rfl, not_lt.mp hneg, hids, hall⟩
          intro ⟨_, _, heq, heq', _, _, hall⟩
          cases heq
          cases heq'; exact hall
        · rw [if_neg hids]
          refine ⟨nofun, fun h => ?_⟩
          obtain ⟨_, _, -, -, -, hids', -⟩ := h; exact absurd hids' hids

/-- With usable reports and no intent the selection is automatic. -/
lemma resolve_of_pass (hintent : input.withoutIntent)
    (hpass : readinessFailure host clock input = none) :
    resolveManagedInferenceServing host adapters clock catalog input =
      resolveAutomatic host adapters catalog input := by
  unfold resolveManagedInferenceServing
  dsimp only
  rw [hintent.1, hintent.2, hpass]; rfl

/-- Without usable reports nothing is selected. -/
lemma resolve_of_failure (hintent : input.withoutIntent) {message : String}
    (hfail : readinessFailure host clock input = some message) :
    resolveManagedInferenceServing host adapters clock catalog input =
      .ok (.rejected .invalidReadiness message) := by
  unfold resolveManagedInferenceServing
  dsimp only
  rw [hintent.1, hintent.2, hfail]; rfl

variable (host) in
lemma matchingCandidate_ok (hcompiled : Compiled adapters catalog)
    (hintent : input.withoutIntent) :
    ∀ p ∈ catalog.presets, ∃ e, matchingCandidate host adapters catalog p input = .ok e := by
  intro p hp
  rcases matchingCandidate_cases host hcompiled hintent hp with h | h | h
  · obtain ⟨_, heq, -⟩ := h; exact ⟨_, heq⟩
  · obtain ⟨_, heq⟩ := h; exact ⟨_, heq⟩
  · obtain ⟨-, _, heq | heq⟩ := h
    · exact ⟨_, heq⟩
    · exact ⟨_, heq⟩

/-- The candidates of all automatic presets that match. -/
def candidates (host : Host) (adapters : Adapters) (catalog : Catalog) (input : Input) :
    List Candidate :=
  catalog.presets.filterMap (automaticCandidate host adapters catalog input)

lemma resolveAutomatic_of_valid
    (hok : ∀ p ∈ catalog.presets, ∃ e, matchingCandidate host adapters catalog p input = .ok e)
    (hvalid : catalog.presets.findSome? (automaticInvalid host adapters catalog input) = none) :
    resolveAutomatic host adapters catalog input =
      .ok (chooseCandidate host catalog (candidates host adapters catalog input)) := by
  unfold resolveAutomatic
  rw [evaluateAutomatic_eq hok, hvalid]; rfl

lemma resolveAutomatic_of_invalid
    (hok : ∀ p ∈ catalog.presets, ∃ e, matchingCandidate host adapters catalog p input = .ok e)
    {message : String}
    (hinvalid : catalog.presets.findSome? (automaticInvalid host adapters catalog input) =
      some message) :
    resolveAutomatic host adapters catalog input =
      .ok (.rejected .invalidTopology message) := by
  unfold resolveAutomatic
  rw [evaluateAutomatic_eq hok, hinvalid]; rfl

/-- A candidate has the preset it is for, which matches. -/
lemma candidate_of_matched (hcompiled : Compiled adapters catalog)
    (hintent : input.withoutIntent) {p : Preset} (hp : p ∈ catalog.presets) {c : Candidate}
    (hc : matchingCandidate host adapters catalog p input = .ok (.matched c)) :
    p.Matches host input ∧ c.preset = p ∧ c.priority = p.priority ∧ c.Selectable catalog := by
  rcases matchingCandidate_cases host hcompiled hintent hp with h | h | h
  · obtain ⟨c', heq, hrest⟩ := h
    rw [hc] at heq
    cases heq; exact hrest
  · obtain ⟨_, heq⟩ := h
    rw [hc] at heq; cases heq
  · obtain ⟨-, _, heq | heq⟩ := h
    · rw [hc] at heq; cases heq
    · rw [hc] at heq; cases heq

lemma mem_candidates {c : Candidate} :
    c ∈ candidates host adapters catalog input ↔ ∃ p ∈ catalog.presets,
      p.selection = .automatic ∧
      matchingCandidate host adapters catalog p input = .ok (.matched c) := by
  unfold candidates
  rw [mem_filterMap]
  exact exists_congr fun p => and_congr_right fun _ => automaticCandidate_eq_some

variable (host) in
/-- Every candidate is of a preset of its own. -/
lemma nodup_candidates (hcompiled : Compiled adapters catalog)
    (hintent : input.withoutIntent) : (candidates host adapters catalog input).Nodup := by
  have hpresets : catalog.presets.Nodup := Nodup.of_map _ hcompiled.ids
  have hsub : ∀ presets : List Preset, presets.Nodup → (∀ p ∈ presets, p ∈ catalog.presets) →
      (presets.filterMap (automaticCandidate host adapters catalog input)).Nodup := by
    intro presets
    induction presets with
    | nil => exact fun _ _ => nodup_nil
    | cons p rest ih =>
      intro hnodup hin
      obtain ⟨hp, hrest⟩ := nodup_cons.mp hnodup
      obtain ⟨hpin, hrestin⟩ := forall_mem_cons.mp hin
      rw [filterMap_cons]
      split
      · exact ih hrest hrestin
      next c hc =>
      refine nodup_cons.mpr ⟨fun hmem => hp ?_, ih hrest hrestin⟩
      obtain ⟨q, hq, hqc⟩ := mem_filterMap.mp hmem
      have hcp := candidate_of_matched hcompiled hintent hpin
        (automaticCandidate_eq_some.mp hc).2
      have hcq := candidate_of_matched hcompiled hintent (hrestin q hq)
        (automaticCandidate_eq_some.mp hqc).2
      rw [← hcp.2.1, hcq.2.1]; exact hq
  exact hsub catalog.presets hpresets fun _ hp => hp

variable {result : Selected}

lemma withoutMessage_eq_selected {r : Resolution} :
    r.withoutMessage = .selected result ↔ r = .selected result := by
  cases r with
  | selected _ => exact Iff.rfl
  | noMatch _ _ => exact ⟨nofun, nofun⟩
  | rejected _ _ => exact ⟨nofun, nofun⟩

/-- A selection comes from the only candidate of the highest priority. -/
lemma chooseCandidate_eq_selected {matching : List Candidate} :
    chooseCandidate host catalog matching = .selected result ↔
      ∃ c, leading matching = [c] ∧
        selectedResolution catalog c .automatic = .selected result := by
  rw [← withoutMessage_eq_selected, chooseCandidate_eq]
  constructor
  · intro heq
    cases hleading : leading matching with
    | nil => rw [hleading] at heq; cases heq
    | cons c rest =>
      rw [hleading] at heq
      cases rest with
      | nil => exact ⟨c, rfl, withoutMessage_eq_selected.mp heq⟩
      | cons _ _ => cases heq
  · intro ⟨c, hleading, heq⟩
    rw [hleading]; exact withoutMessage_eq_selected.mpr heq

lemma leading_eq_singleton {matching : List Candidate} (hnodup : matching.Nodup)
    {c : Candidate} : leading matching = [c] ↔
      c ∈ matching ∧ ∀ c' ∈ matching, c' ≠ c → c'.priority < c.priority :=
  Priority.leaders_eq_singleton before_priority hnodup

lemma findSome?_invalid_eq_none :
    catalog.presets.findSome? (automaticInvalid host adapters catalog input) = none ↔
      ∀ q ∈ catalog.presets, q.selection = .automatic → ∀ message,
        matchingCandidate host adapters catalog q input ≠ .ok (.invalidTopology message) := by
  rw [List.findSome?_eq_none_iff]
  refine forall₂_congr fun q _ => ?_
  rw [eq_none_iff_forall_ne_some]
  constructor
  · intro h hautomatic message heq
    exact h message (automaticInvalid_eq_some.mpr ⟨hautomatic, heq⟩)
  · intro h message heq
    obtain ⟨hautomatic, hinvalid⟩ := automaticInvalid_eq_some.mp heq
    exact h hautomatic message hinvalid

/-- A result is selected exactly for the preset that is chosen. -/
theorem resolve_selected (hcompiled : Compiled adapters catalog) (hintent : input.withoutIntent) :
    resolveManagedInferenceServing host adapters clock catalog input = .ok (.selected result) ↔
      ∃ p c, Chosen host adapters clock catalog input p ∧
        matchingCandidate host adapters catalog p input = .ok (.matched c) ∧
        result = c.selected catalog .automatic := by
  have hok := matchingCandidate_ok host hcompiled hintent
  have hnodup := nodup_candidates host hcompiled hintent
  constructor
  · intro hselected
    cases hpass : readinessFailure host clock input with
    | some message => rw [resolve_of_failure hintent hpass] at hselected; cases hselected
    | none =>
      rw [resolve_of_pass hintent hpass] at hselected
      cases hvalid : catalog.presets.findSome?
          (automaticInvalid host adapters catalog input) with
      | some message =>
        rw [resolveAutomatic_of_invalid hok hvalid] at hselected; cases hselected
      | none =>
        rw [resolveAutomatic_of_valid hok hvalid, Except.ok.injEq,
          chooseCandidate_eq_selected] at hselected
        obtain ⟨c, hleading, hresult⟩ := hselected
        obtain ⟨hc, habove⟩ := (leading_eq_singleton hnodup).mp hleading
        obtain ⟨p, hp, hautomatic, hmatched⟩ := mem_candidates.mp hc
        obtain ⟨hmatches, hpreset, hpriority, hselectable⟩ :=
          candidate_of_matched hcompiled hintent hp hmatched
        rw [hselectable .automatic] at hresult
        cases hresult
        have hnone := findSome?_invalid_eq_none.mp hvalid
        refine ⟨p, c, ?_, hmatched, rfl⟩
        refine ⟨readinessFailure_eq_none.mp hpass, hnone, hp, hautomatic, hmatches, ?_⟩
        intro q hq hne hqautomatic hqmatches
        -- a preset that matches and has no invalid topology has a candidate
        rcases matchingCandidate_cases host hcompiled hintent hq with h | h | h
        · obtain ⟨c', hc', -, hpreset', hpriority', -⟩ := h
          rw [← hpriority', ← hpriority]
          refine habove c' (mem_candidates.mpr ⟨q, hq, hqautomatic, hc'⟩) fun heq => hne ?_
          rw [← hpreset', heq, hpreset]
        · obtain ⟨message, heq⟩ := h
          exact absurd heq (hnone q hq hqautomatic message)
        · exact absurd hqmatches h.1
  · intro ⟨p, c, hchosen, hmatched, hresult⟩
    have hp := hchosen.inCatalog
    obtain ⟨-, hpreset, hpriority, hselectable⟩ :=
      candidate_of_matched hcompiled hintent hp hmatched
    rw [resolve_of_pass hintent (readinessFailure_eq_none.mpr hchosen.reports),
      resolveAutomatic_of_valid hok (findSome?_invalid_eq_none.mpr hchosen.topologies),
      Except.ok.injEq, chooseCandidate_eq_selected, hresult]
    refine ⟨c, (leading_eq_singleton hnodup).mpr ⟨?_, ?_⟩, hselectable .automatic⟩
    · exact mem_candidates.mpr ⟨p, hp, hchosen.automatic, hmatched⟩
    intro c' hc' hne
    obtain ⟨q, hq, hqautomatic, hqmatched⟩ := mem_candidates.mp hc'
    obtain ⟨hqmatches, -, hqpriority, -⟩ :=
      candidate_of_matched hcompiled hintent hq hqmatched
    rw [hqpriority, hpriority]
    refine hchosen.above q hq (fun heq => hne ?_) hqautomatic hqmatches
    rw [heq, hmatched] at hqmatched
    cases hqmatched; rfl

/-- The preset that is chosen has a candidate. -/
lemma Chosen.candidate (hcompiled : Compiled adapters catalog)
    (hintent : input.withoutIntent) {p : Preset}
    (hchosen : Chosen host adapters clock catalog input p) :
    ∃ c, matchingCandidate host adapters catalog p input = .ok (.matched c) ∧ c.preset = p := by
  rcases matchingCandidate_cases host hcompiled hintent hchosen.inCatalog with h | h | h
  · obtain ⟨c, hc, -, hpreset, -, -⟩ := h; exact ⟨c, hc, hpreset⟩
  · obtain ⟨message, heq⟩ := h
    exact absurd heq (hchosen.topologies p hchosen.inCatalog hchosen.automatic message)
  · exact absurd hchosen.requirements h.1

lemma evaluateAutomatic_naming (presetId : String) (presets : List Preset) :
    evaluateAutomatic host adapters catalog (input.naming presetId) presets =
      evaluateAutomatic host adapters catalog input presets := by
  induction presets with
  | nil => rfl
  | cons p rest ih => rw [evaluateAutomatic, evaluateAutomatic, ih]; rfl

/-- Asking for the selected preset by name selects the same. -/
theorem resolve_naming (hcompiled : Compiled adapters catalog) (hintent : input.withoutIntent)
    (hselected : resolveManagedInferenceServing host adapters clock catalog input =
      .ok (.selected result)) :
    ∃ selection, resolveManagedInferenceServing host adapters clock catalog
      (input.naming result.preset.id) =
        .ok (.selected { result with selection := selection }) := by
  obtain ⟨p, c, hchosen, hmatched, hresult⟩ := (resolve_selected hcompiled hintent).mp hselected
  have hp := hchosen.inCatalog
  obtain ⟨-, hpreset, -, hselectable⟩ := candidate_of_matched hcompiled hintent hp hmatched
  have hid : result.preset.id = p.id := by
    rw [hresult, ← hpreset]; rfl
  have hpass := readinessFailure_eq_none.mpr hchosen.reports
  have hexplicit : explicitIntentWithoutPreset
      ((input.naming result.preset.id).intent.getD .none) = false := hintent.2
  cases htext : hasText p.id with
  | false =>
    -- a blank id names nothing
    refine ⟨.automatic, ?_⟩
    have hnone : textOf ((input.naming result.preset.id).intent.getD .none).preset = none := by
      show textOf (some result.preset.id) = none
      rw [hid]
      unfold textOf
      rw [filter_some, htext]; rfl
    rw [resolve_of_pass ⟨hnone, hexplicit⟩ hpass]
    rw [resolve_of_pass hintent hpass] at hselected
    unfold resolveAutomatic at hselected ⊢
    rw [evaluateAutomatic_naming, hselected, hresult]; rfl
  | true =>
    refine ⟨.explicit, ?_⟩
    have hsome : textOf ((input.naming result.preset.id).intent.getD .none).preset =
        some p.id := by
      show textOf (some result.preset.id) = some p.id
      rw [hid]
      unfold textOf
      rw [filter_some, htext]; rfl
    have honly : catalog.presets.filter (fun q => q.id == p.id) = [p] := by
      rw [← perm_singleton]
      refine (perm_ext_iff_of_nodup ?_ (nodup_singleton p)).mpr fun q => ?_
      · exact (Nodup.of_map _ hcompiled.ids).filter _
      rw [mem_filter, mem_singleton, beq_iff_eq]
      constructor
      · intro ⟨hq, heq⟩; exact inj_on_of_nodup_map hcompiled.ids hq hp heq
      · intro heq
        rw [heq]; exact ⟨hp, rfl⟩
    have hnamed : matchingCandidate host adapters catalog p (input.naming result.preset.id) =
        .ok (.matched c) := hmatched
    have hpass' : readinessFailure host clock (input.naming result.preset.id) = none := hpass
    unfold resolveManagedInferenceServing
    dsimp only
    rw [hsome, hexplicit, hpass']
    show resolveExplicit host adapters catalog (input.naming result.preset.id) p.id = _
    unfold resolveExplicit
    rw [honly]
    dsimp only
    rw [if_neg, hnamed]
    · show Except.ok (selectedResolution catalog c .explicit) = _
      rw [hselectable .explicit, hresult]; rfl
    · rw [hchosen.automatic]; decide

/-- The order of presets, reports and qualifications does not matter. -/
theorem resolve_perm (hcompiled : Compiled adapters catalog) (hintent : input.withoutIntent)
    {presets : List Preset} {reports : List ReadinessSource}
    {artifacts : List TopologyQualification} (hpresets : presets.Perm catalog.presets)
    (hreports : reports.Perm input.readinessReports)
    (hartifacts : artifacts.Perm input.topologyQualifications) :
    (resolveManagedInferenceServing host adapters clock { catalog with presets := presets }
      { input with readinessReports := reports, topologyQualifications := artifacts }).map
        Resolution.withoutMessage =
      (resolveManagedInferenceServing host adapters clock catalog input).map
        Resolution.withoutMessage := by
  have hfail := readinessFailure_perm host clock hreports artifacts
  have hmatching := fun p => matchingCandidate_perm host adapters catalog input p presets hreports
    hartifacts
  have hok := matchingCandidate_ok host hcompiled hintent
  generalize hinput' : { input with
    readinessReports := reports, topologyQualifications := artifacts } = input' at *
  generalize hcatalog' : { catalog with presets := presets } = catalog' at *
  have hintent' : input'.withoutIntent := by
    rw [← hinput']; exact hintent
  have hpresets' : catalog'.presets.Perm catalog.presets := by
    rw [← hcatalog']; exact hpresets
  cases hpass : readinessFailure host clock input with
  | some message =>
    rw [hpass] at hfail
    obtain ⟨message', hfail'⟩ := isSome_iff_exists.mp hfail
    rw [resolve_of_failure hintent hpass, resolve_of_failure hintent' hfail']; rfl
  | none =>
    rw [hpass] at hfail
    have hpass' : readinessFailure host clock input' = none :=
      isNone_iff_eq_none.mp (isSome_eq_false_iff.mp hfail)
    rw [resolve_of_pass hintent hpass, resolve_of_pass hintent' hpass']
    have hok' : ∀ p ∈ catalog'.presets,
        ∃ e, matchingCandidate host adapters catalog' p input' = .ok e := by
      intro p hp
      rw [hmatching]; exact hok p (hpresets'.mem_iff.mp hp)
    have hinvalid : automaticInvalid host adapters catalog' input' =
        automaticInvalid host adapters catalog input := by
      funext p
      unfold automaticInvalid ofAutomatic
      rw [hmatching]
    have hcandidate : automaticCandidate host adapters catalog' input' =
        automaticCandidate host adapters catalog input := by
      funext p
      unfold automaticCandidate ofAutomatic
      rw [hmatching]
    have hsame := findSome?_isSome_perm hpresets'
      (automaticInvalid host adapters catalog input)
    cases hvalid : catalog.presets.findSome? (automaticInvalid host adapters catalog input) with
    | some message =>
      rw [hvalid] at hsame
      obtain ⟨message', hvalid'⟩ := isSome_iff_exists.mp hsame
      rw [← hinvalid] at hvalid'
      rw [resolveAutomatic_of_invalid hok hvalid, resolveAutomatic_of_invalid hok' hvalid']
      rfl
    | none =>
      rw [hvalid, ← hinvalid] at hsame
      have hvalid' := isNone_iff_eq_none.mp (isSome_eq_false_iff.mp hsame)
      rw [resolveAutomatic_of_valid hok hvalid, resolveAutomatic_of_valid hok' hvalid']
      have hperm : (candidates host adapters catalog' input').Perm
          (candidates host adapters catalog input) := by
        unfold candidates
        rw [hcandidate]; exact hpresets'.filterMap _
      have hchoice : (chooseCandidate host catalog'
          (candidates host adapters catalog' input')).withoutMessage =
          (chooseCandidate host catalog
            (candidates host adapters catalog input)).withoutMessage := by
        have hsame : choice catalog' = choice catalog := by
          rw [← hcatalog']; rfl
        rw [chooseCandidate_eq, chooseCandidate_eq, hsame]
        exact choice_perm (Priority.leaders_perm before_priority hperm)
      show Except.ok _ = Except.ok _
      rw [hchoice]

/-- Without explicit intent a preset is selected if and only if it is the automatic one that
matches and is above all others that match; no order matters, and the preset can be named. -/
theorem resolveManagedInferenceServing_exact (host : Host) (adapters : Adapters) (clock : ℚ)
    (catalog : Catalog) (input : Input) (hcompiled : Compiled adapters catalog)
    (hintent : input.withoutIntent) :
    (∀ p, (∃ result, resolveManagedInferenceServing host adapters clock catalog input =
        .ok (.selected result) ∧ result.preset = p) ↔
      Chosen host adapters clock catalog input p) ∧
    (∀ presets reports artifacts, presets.Perm catalog.presets →
      reports.Perm input.readinessReports → artifacts.Perm input.topologyQualifications →
      (resolveManagedInferenceServing host adapters clock { catalog with presets := presets }
        { input with readinessReports := reports, topologyQualifications := artifacts }).map
          Resolution.withoutMessage =
        (resolveManagedInferenceServing host adapters clock catalog input).map
          Resolution.withoutMessage) ∧
    ∀ result, resolveManagedInferenceServing host adapters clock catalog input =
        .ok (.selected result) →
      ∃ selection, resolveManagedInferenceServing host adapters clock catalog
        (input.naming result.preset.id) =
          .ok (.selected { result with selection := selection }) := by
  refine ⟨fun p => ⟨?_, ?_⟩, ?_, ?_⟩
  · intro ⟨result, hselected, hpreset⟩
    obtain ⟨q, c, hchosen, hmatched, hresult⟩ :=
      (resolve_selected hcompiled hintent).mp hselected
    have hc := (candidate_of_matched hcompiled hintent hchosen.inCatalog hmatched).2.1
    have hq : q = p := by
      rw [← hpreset, hresult, ← hc]; rfl
    rw [← hq]; exact hchosen
  · intro hchosen
    obtain ⟨c, hmatched, hpreset⟩ := hchosen.candidate hcompiled hintent
    exact ⟨c.selected catalog .automatic,
      (resolve_selected hcompiled hintent).mpr ⟨p, c, hchosen, hmatched, rfl⟩, hpreset⟩
  · intro presets reports artifacts hpresets hreports hartifacts
    exact resolve_perm hcompiled hintent hpresets hreports hartifacts
  · intro result hselected; exact resolve_naming hcompiled hintent hselected

/-- A host that reads every date as the epoch. -/
def oneNodeHost : Host :=
  ⟨fun _ => some 0, fun _ => "1", fun _ => 4, fun _ => "00"⟩

/-- No topology adapters. -/
def oneNodeAdapters : Adapters := ⟨fun _ _ => none⟩

/-- A readiness report without observations. -/
def oneNodeReport : Report :=
  ⟨"1.0.0", false, "1.2.3", "0123456789abcdef0123456789abcdef01234567", "2026-01-01T00:00:00Z",
    [], [], [], [], [], .supported, 0⟩

/-- A recipe for vLLM on the host itself. -/
def hostLocalRecipe : Recipe :=
  ⟨"recipe", "install-vllm", "model", "served", HOST_LOCAL_VLLM_MATERIALIZER_REF,
    HOST_LOCAL_VLLM_LIFECYCLE_REF, some NO_PREPARATION_REF, .obj []⟩

/-- An automatic preset for a cluster of one node. -/
def oneNodePreset (id : String) (priority : ℚ) : Preset :=
  ⟨id, .automatic, priority, [.fact ⟨"cluster.nodeCount", .present, .equals, .num 1⟩],
    "install-vllm", "recipe", .obj []⟩

/-- Two such presets of different priorities. -/
def twoPresets : Catalog :=
  ⟨"sha256:00", [oneNodePreset "low" 1, oneNodePreset "high" 2], [hostLocalRecipe]⟩

/-- The report of one node, without an intent. -/
def oneNodeInput : Input := ⟨[⟨"spark", oneNodeReport⟩], [], none, some (some 1000), none⟩

lemma twoPresets_compiled : Compiled oneNodeAdapters twoPresets := by
  have hrecipe : ∀ id priority, recipeForPreset oneNodeAdapters twoPresets
      (oneNodePreset id priority) = .ok hostLocalRecipe := by
    intro id priority; rfl
  refine ⟨by decide, ?_, ?_, ?_, ?_⟩
  · intro p hp
    rcases mem_cons.mp hp with rfl | hp
    · exact ⟨_, hrecipe "low" 1⟩
    · rw [mem_singleton.mp hp]; exact ⟨_, hrecipe "high" 2⟩
  · decide
  · decide
  · decide

/-- The preset of the higher priority is selected. -/
def selectsHigh : Except String Resolution → Bool
  | .ok (.selected result) => result.preset.id == "high"
  | _ => false

theorem resolveManagedInferenceServing_exact_twoPresets :
    ∃ result, resolveManagedInferenceServing oneNodeHost oneNodeAdapters 0 twoPresets
        oneNodeInput = .ok (.selected result) ∧
      Chosen oneNodeHost oneNodeAdapters 0 twoPresets oneNodeInput result.preset ∧
      ∃ selection, resolveManagedInferenceServing oneNodeHost oneNodeAdapters 0 twoPresets
        (oneNodeInput.naming result.preset.id) =
          .ok (.selected { result with selection := selection }) := by
  have hexact := resolveManagedInferenceServing_exact oneNodeHost oneNodeAdapters 0 twoPresets
    oneNodeInput twoPresets_compiled ⟨rfl, rfl⟩
  have hselects : selectsHigh (resolveManagedInferenceServing oneNodeHost oneNodeAdapters 0
    twoPresets oneNodeInput) := by decide +kernel
  cases hresolve : resolveManagedInferenceServing oneNodeHost oneNodeAdapters 0 twoPresets
      oneNodeInput with
  | error message => rw [hresolve] at hselects; cases hselects
  | ok resolution =>
    rw [hresolve] at hselects
    cases resolution with
    | selected result =>
      exact ⟨result, rfl, (hexact.1 _).mp ⟨result, hresolve, rfl⟩, hexact.2.2 result hresolve⟩
    | noMatch _ _ => cases hselects
    | rejected _ _ => cases hselects

end Exact

end NemoClaw.Serving
