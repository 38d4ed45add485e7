import NemoClaw.Inference.InferenceSet

/- The gateway, the registry row and the configuration after a switch.

A command that reports success took effect and one that reports a failure had none. The
registry row is written after the selection only, so wherever a switch stops the row is
the old one or the gateway routes to what the row says. What a switch that does not come
to the selection can leave behind is a provider that it created: where the gateway does
not show it as it was asked for, or does not confirm that it is gone again.
-/
namespace NemoClaw.InferenceSet

open Js CallTree

structure State where
  /-- the selections that were made, last one first -/
  selections : List Selection
  providers : String → Option ProviderBinding
  row : Option InferenceSelection
  config : Json
  /-- what the hash was computed of -/
  hashed : Json

def State.selection (s : State) : Option Selection := s.selections.head?

def Command.apply : Command → State → State
  | providerCreate name binding, s =>
    { s with providers := Function.update s.providers name (some binding) }
  | providerUpdate name binding, s =>
    { s with providers := Function.update s.providers name (some binding) }
  | providerDelete name, s => { s with providers := Function.update s.providers name none }
  | inferenceSet selection _, s => { s with selections := selection :: s.selections }
  | providerGet _, s | providerList, s => s

variable (readers : Readers)

def Command.Truthful (s : State) (result : CaptureOpenshellResult) : Command → Prop
  | providerGet name => ¬result.Succeeded →
    readers.providerLookupReportsNotFound result name = true → s.providers name = none
  | _ => True

/-- What a command can do: it takes effect exactly if it reports success. -/
def Command.Takes (s : State) (command : Command) (s' : State)
    (result : CaptureOpenshellResult) : Prop :=
  s' = (if result.Succeeded then command.apply s else s) ∧ command.Truthful readers s result

def Can (s : State) : (q : Call) → State → q.Answer → Prop
  | .openshell command, s', result => command.Takes readers s s' result
  | .updateSandbox fields, s', answer =>
    match answer with
    | .ok true => s.row.isSome ∧ s' = { s with row := some fields }
    | .ok false => s' = s
    | .error _ => s' = s ∨ s' = { s with row := some fields }
  | .writeSandboxConfig config, s', answer =>
    match answer with
    | .ok _ => s' = { s with config }
    | .error _ => ∃ partial', s' = { s with config := partial' }
  | .recomputeSandboxConfigHash, s', answer =>
    match answer with
    | .ok _ => s' = { s with hashed := s.config }
    | .error _ => ∃ partial', s' = { s with hashed := partial' }
  | _, s', _ => s' = s

/-! ## What each part comes to -/

section Parts

variable {readers} {p : Prepared} {s0 s : State}

/-- The registry row is the old one, or the gateway routes to what is requested. -/
def InStep (p : Prepared) (s0 s : State) : Prop :=
  s.row ≠ s0.row → s.selection = some p.requested

abbrev Does {α : Type} (readers : Readers) (p : Prepared) (s0 : State)
    (post : State → Except Failure α → Prop) (t : Program α) (s : State) : Prop :=
  Always (Can readers) (InStep p s0) post t s

structure Before (s0 s : State) : Prop where
  selections : s.selections = s0.selections
  row : s.row = s0.row

lemma InStep.of_row (h : s.row = s0.row) : InStep p s0 s := fun hne => absurd h hne

/-- Nothing changed at the gateway. -/
structure Clean (s0 s : State) : Prop extends Before s0 s where
  providers : s.providers = s0.providers

structure Created (p : Prepared) (s0 s : State) : Prop extends Before s0 s where
  absent : s0.providers p.provider = none
  providers : ∃ binding, s.providers = Function.update s0.providers p.provider (some binding)

lemma captureOpenshell_does {command : Command} (hinv : InStep p s0 s)
    (happly : InStep p s0 (command.apply s)) :
    Does readers p s0 (fun s' r => ∃ result, r = .ok result ∧ command.Takes readers s s' result)
      (captureOpenshell command) s := by
  refine Always.ask hinv fun s' result hcan => ⟨?_, result, rfl, hcan⟩
  have htakes : command.Takes readers s s' result := hcan
  rw [htakes.1]
  split
  · exact happly
  · exact hinv

lemma inspectProvider_does (hinv : InStep p s0 s) {name : String} :
    Does readers p s0 (fun s' r => s' = s ∧ ∃ o, r = .ok o ∧
      (isAbsent o = true → s.providers name = none)) (inspectProvider readers name) s := by
  refine (@captureOpenshell_does readers p s0 s (.providerGet name) hinv hinv).bind
    (fun s1 result hinv1 h1 => ?_) fun s1 e _ h1 => ?_
  · obtain ⟨_, heq, hs1, htrue⟩ := h1
    cases heq
    have hsame : s1 = s := by
      rw [hs1]
      split <;> rfl
    subst hsame
    refine .done hinv1 ⟨rfl, _, rfl, fun habsent => ?_⟩
    unfold observe at habsent
    split at habsent
    · next hfailed =>
      split at habsent
      · next hfound => exact htrue hfailed hfound
      · cases habsent
    · split at habsent <;> cases habsent
  · obtain ⟨_, heq, -⟩ := h1; cases heq

lemma applyMutation_does {m : ProviderMutation} (hinv : InStep p s0 s)
    (hrow : ∀ s', s'.selections = s.selections → s'.row = s.row → InStep p s0 s') :
    Does readers p s0 (fun s' r =>
        (s' = s ∧ (∃ status, r = .error (applyFailed p m.action status))) ∨
          (s' = { s with
            providers := Function.update s.providers p.provider (some m.binding) } ∧
            (r = .ok () ∨ r = .error (notConverged p m.action))))
      (applyMutation readers p m) s := by
  have happly : (mutationCommand m.action p.provider m.binding).apply s =
      { s with providers := Function.update s.providers p.provider (some m.binding) } := by
    cases m.action <;> rfl
  refine (captureOpenshell_does hinv (happly ▸ hrow _ rfl rfl)).bind
    (fun s1 result hinv1 h1 => ?_) fun _ _ _ h1 => ?_
  · obtain ⟨_, heq, hs1, -⟩ := h1
    cases heq
    rw [happly] at hs1
    refine (inspectProvider_does hinv1).bind (fun s2 after hinv2 h2 => ?_) fun _ _ _ h2 => ?_
    · obtain ⟨rfl, -⟩ := h2
      refine .done hinv2 ?_
      unfold checkApplied
      by_cases hsucceeded : result.Succeeded
      · rw [if_pos hsucceeded] at hs1
        refine .inr ⟨hs1, ?_⟩
        rw [if_neg (not_not.mpr hsucceeded)]
        split
        · exact .inl rfl
        · exact .inr rfl
      · rw [if_neg hsucceeded] at hs1; exact .inl ⟨hs1, result.status, if_pos hsucceeded⟩
    · obtain ⟨-, _, heq', -⟩ := h2
      cases heq'
  · obtain ⟨_, heq, -⟩ := h1; cases heq

def Left (p : Prepared) (s0 s : State) : Option ProviderMutation → Prop
  | none => Clean s0 s
  | some m =>
    match m.action with
    | .create => Created p s0 s
    | .update => Clean s0 s

/-- A provider stays that the gateway did not show as it was asked for, or did not confirm to
be gone. -/
def LeftProvider (p : Prepared) (s0 s : State) (e : Failure) : Prop :=
  Created p s0 s ∧ (e = notConverged p .create ∨ ∃ e', e = rollbackFailed e' (removalFailed p))

lemma Clean.refl : Clean s0 s0 := ⟨⟨rfl, rfl⟩, rfl⟩

lemma Left.before {mutation : Option ProviderMutation} (h : Left p s0 s mutation) :
    Before s0 s := by
  cases mutation with
  | none => exact h.toBefore
  | some m =>
  unfold Left at h
  cases hm : m.action with
  | create => simp only [hm] at h; exact h.toBefore
  | update => simp only [hm] at h; exact h.toBefore

lemma assertProviderOwnership_create {o : ProviderObservation} {name : String}
    {binding : ProviderBinding} (h : assertProviderOwnership o name binding = .ok .create) :
    isAbsent o = true := by
  unfold assertProviderOwnership at h
  split at h
  · rfl
  · cases h
  · split at h <;> cases h

lemma prepareInferenceSetProviderBinding_does {binding : ProviderBinding} :
    Does readers p s0 (Split (fun s m => Left p s0 s (some m))
        fun s e => Clean s0 s ∨ LeftProvider p s0 s e)
      (prepareInferenceSetProviderBinding readers p binding) s0 := by
  have hinv0 : InStep p s0 s0 := InStep.of_row rfl
  refine (inspectProvider_does hinv0).bind (fun s1 before hinv1 h1 => ?_) fun _ _ _ h1 => ?_
  · obtain ⟨rfl, o, heq, habsent⟩ := h1
    cases heq
    refine Always.lift hinv1 (fun action haction => ?_) fun e _ => .inl Clean.refl
    cases action with
    | update => exact .done hinv1 Clean.refl
    | create =>
    have hnone := habsent (assertProviderOwnership_create haction)
    have hcreated : Created p s1 { s1 with
        providers := Function.update s1.providers p.provider (some binding) } :=
      ⟨⟨rfl, rfl⟩, hnone, binding, rfl⟩
    refine (applyMutation_does hinv1 fun _ _ hrow => InStep.of_row hrow).bind
      (fun s2 _ hinv2 h2 => .done hinv2 ?_) fun s2 e _ h2 => ?_
    · rcases h2 with ⟨-, _, herror⟩ | ⟨rfl, -⟩
      · cases herror
      · exact hcreated
    · rcases h2 with ⟨rfl, -⟩ | ⟨rfl, hresult⟩
      · exact .inl Clean.refl
      · rcases hresult with hok | herror
        · cases hok
        · exact .inr ⟨hcreated, .inl (Except.error.inj herror)⟩
  · obtain ⟨-, _, heq, -⟩ := h1; cases heq

lemma prepareMutation_does :
    Does readers p s0 (Split (Left p s0) fun s e => Clean s0 s ∨ LeftProvider p s0 s e)
      (prepareMutation readers p) s0 := by
  unfold prepareMutation
  cases p.providerBinding with
  | none => exact .done (InStep.of_row rfl) Clean.refl
  | some binding =>
    exact prepareInferenceSetProviderBinding_does.bind (fun s m hinv h => .done hinv h)
      fun s e _ h => h

lemma checkMutation_left {mutation kept : Option ProviderMutation}
    (hleft : Left p s0 s mutation) (h : checkMutation p mutation = .ok kept) :
    Left p s0 s kept := by
  cases mutation with
  | none => cases h; exact hleft
  | some m =>
    obtain ⟨action, before, binding⟩ := m
    cases action with
    | create => cases h; exact hleft
    | update =>
      have hclean : Clean s0 s := hleft
      cases hdirect : p.directProviderBinding with
      | none =>
        simp only [checkMutation, hdirect] at h
        cases hprevious : requirePrevious p with
        | ok u =>
          rw [hprevious] at h
          cases h; exact hclean
        | error e => rw [hprevious] at h; cases h
      | some direct =>
        simp only [checkMutation, hdirect] at h
        cases hcheck : checkDirectBinding p direct with
        | ok u =>
          rw [hcheck] at h
          cases h; exact hclean
        | error e => rw [hcheck] at h; cases h

/-- The selection command took effect. -/
def Selected (p : Prepared) (s s' : State) : Prop :=
  s' = { s with selections := p.requested :: s.selections }

lemma setInferenceRoute_does (hrow : s.row = s0.row) :
    Does readers p s0 (fun s' r => ∃ result : CaptureOpenshellResult, r = .ok result ∧
        (result.Succeeded → Selected p s s') ∧ (¬result.Succeeded → s' = s))
      (setInferenceRoute p) s := by
  refine (@captureOpenshell_does readers p s0 s (.inferenceSet p.requested p.effectiveNoVerify)
    (InStep.of_row hrow) (InStep.of_row hrow)).mono fun s' r _ h => ?_
  obtain ⟨result, hr, hs', -⟩ := h
  refine ⟨result, hr, fun hsucceeded => ?_, fun hfailed => ?_⟩
  · rw [if_pos hsucceeded] at hs'; exact hs'
  · rw [if_neg hfailed] at hs'; exact hs'

lemma retryNotFound_does {s' : State} {first : CaptureOpenshellResult} (hrow : s.row = s0.row)
    (hinv : InStep p s0 s') (hselected : first.Succeeded → Selected p s s')
    (hsame : ¬first.Succeeded → s' = s) :
    Does readers p s0 (fun s' r => ∃ result : CaptureOpenshellResult, r = .ok result ∧
        (result.Succeeded → Selected p s s') ∧ (¬result.Succeeded → s' = s))
      (retryNotFound readers p first) s' := by
  unfold retryNotFound
  split
  · next hretry =>
    obtain rfl := hsame hretry.1; exact setInferenceRoute_does hrow
  · exact .done hinv ⟨first, rfl, hselected, hsame⟩

lemma throwSelectionFailure_does {setResult : CaptureOpenshellResult}
    {ok : State → Unit → Prop} (hrow : s.row = s0.row) :
    Does readers p s0 (Split ok fun s' _ => s' = s)
      (throwSelectionFailure readers p setResult) s := by
  have hinv : InStep p s0 s := InStep.of_row hrow
  have hquery : Does readers p s0 (fun s' r => s' = s ∧ ∃ listed, r = .ok listed)
      (queryProviders readers p setResult) s := by
    unfold queryProviders
    split
    · refine (@captureOpenshell_does readers p s0 s .providerList hinv hinv).bind
        (fun s1 result hinv1 h1 => .done hinv1 ⟨?_, _, rfl⟩) fun _ _ _ h1 => ?_
      · obtain ⟨_, -, hs1, -⟩ := h1
        rw [hs1]
        split <;> rfl
      · obtain ⟨_, heq, -⟩ := h1; cases heq
    · exact .done hinv ⟨rfl, _, rfl⟩
  refine hquery.bind (fun s1 listed hinv1 h1 => .done hinv1 h1.1) fun _ _ _ h1 => ?_
  obtain ⟨-, _, heq⟩ := h1; cases heq

lemma selectRoute_does (hrow : s.row = s0.row) :
    Does readers p s0 (Split (fun s' _ => Selected p s s') fun s' _ => s' = s)
      (selectRoute readers p) s := by
  refine (setInferenceRoute_does hrow).bind (fun s1 first hinv1 h1 => ?_) fun _ _ _ h1 => ?_
  · obtain ⟨_, heq, hselected, hsame⟩ := h1
    cases heq
    refine (retryNotFound_does hrow hinv1 hselected hsame).bind (fun s2 result hinv2 h2 => ?_)
      fun _ _ _ h2 => ?_
    · obtain ⟨_, heq2, hselected2, hsame2⟩ := h2
      cases heq2
      by_cases hsucceeded : result.Succeeded
      · rw [if_pos hsucceeded]; exact .done hinv2 (hselected2 hsucceeded)
      · rw [if_neg hsucceeded]
        obtain rfl := hsame2 hsucceeded; exact throwSelectionFailure_does hrow
    · obtain ⟨_, heq2, -⟩ := h2; cases heq2
  · obtain ⟨_, heq, -⟩ := h1; cases heq

lemma rollback_does {m : ProviderMutation} (hleft : Left p s0 s (some m)) :
    Does readers p s0 (Split (fun s' _ => Clean s0 s')
        fun s' e => e = removalFailed p ∧ (Clean s0 s' ∨ Created p s0 s'))
      (rollback readers p m) s := by
  have hrow := hleft.before.row
  unfold rollback
  unfold Left at hleft
  cases hm : m.action with
  | update => simp only [hm] at hleft; exact .done (InStep.of_row hrow) hleft
  | create =>
    simp only [hm] at hleft
    refine (@captureOpenshell_does readers p s0 s (.providerDelete p.provider)
      (InStep.of_row hrow) (InStep.of_row hrow)).bind (fun s1 result hinv1 h1 => ?_)
      fun _ _ _ h1 => ?_
    · obtain ⟨_, heq, hs1, -⟩ := h1
      cases heq
      have hend : if result.Succeeded then Clean s0 s1 else Created p s0 s1 := by
        by_cases hsucceeded : result.Succeeded
        · rw [if_pos hsucceeded] at hs1 ⊢
          subst hs1
          obtain ⟨⟨hselections, hrow⟩, habsent, binding, hproviders⟩ := hleft
          refine ⟨⟨hselections, hrow⟩, ?_⟩
          show Function.update s.providers p.provider none = s0.providers
          rw [hproviders, Function.update_idem, ← habsent, Function.update_eq_self]
        · rw [if_neg hsucceeded] at hs1 ⊢
          subst hs1; exact hleft
      refine (inspectProvider_does hinv1).bind (fun s2 restored hinv2 h2 => ?_)
        fun _ _ _ h2 => ?_
      · obtain ⟨rfl, -⟩ := h2
        refine .done hinv2 ?_
        unfold checkRemoved
        by_cases hsucceeded : result.Succeeded
        · rw [if_pos hsucceeded] at hend
          split
          · exact ⟨rfl, .inl hend⟩
          · exact hend
        · rw [if_neg hsucceeded] at hend
          rw [if_pos (.inl hsucceeded)]; exact ⟨rfl, .inr hend⟩
      · obtain ⟨-, _, heq2, -⟩ := h2; cases heq2
    · obtain ⟨_, heq, -⟩ := h1; cases heq

/-- How a switch that did not come to the selection ends. -/
def NotSelected (p : Prepared) (s0 s : State) (e : Failure) : Prop :=
  Clean s0 s ∨ LeftProvider p s0 s e

lemma rollbackAndThrow_does {α : Type} {ok : State → α → Prop}
    {mutation : Option ProviderMutation} {e : Failure} (hleft : Left p s0 s mutation) :
    Does readers p s0 (Split ok (NotSelected p s0)) (rollbackAndThrow readers p mutation e) s := by
  have hrow := hleft.before.row
  cases mutation with
  | none => exact .done (InStep.of_row hrow) (.inl hleft)
  | some m =>
  refine (rollback_does hleft).attempt_bind fun s1 r hinv1 h1 => ?_
  cases r with
  | ok u => exact .done hinv1 (.inl h1)
  | error rollbackError =>
  obtain ⟨rfl, hend⟩ := h1
  refine .done hinv1 ?_
  rcases hend with hclean | hcreated
  · exact .inl hclean
  · exact .inr ⟨hcreated, .inr ⟨e, rfl⟩⟩

/-! ### After the selection -/

structure Routed (p : Prepared) (s0 s : State) : Prop where
  selection : s.selection = some p.requested
  made : s0.selections.length < s.selections.length

lemma Routed.inStep (h : Routed p s0 s) : InStep p s0 s := fun _ => h.selection

lemma Routed.of_selections {s' : State} (h : Routed p s0 s)
    (hs' : s'.selections = s.selections) : Routed p s0 s' := by
  obtain ⟨hselection, hmade⟩ := h
  refine ⟨?_, hs' ▸ hmade⟩
  rw [State.selection, hs']; exact hselection

/-- The row has the requested provider and model. -/
def RowSwitched (p : Prepared) (s : State) : Prop :=
  ∃ row, s.row = some row ∧ row.provider = some p.provider ∧ row.model = some p.model

lemma nullableString_eq {value : String} (htrimmed : jsTrim value = value)
    (hnonempty : value ≠ "") : nullableString (some value) = some value := by
  simp [nullableString, htrimmed, hnonempty]

lemma registryFields_switched (p : Prepared) (preferredInferenceApi : Option String) :
    (registryFields p preferredInferenceApi).provider = some p.provider ∧
      (registryFields p preferredInferenceApi).model = some p.model := by
  dsimp only [registryFields, inferenceSelectionRegistryFields]
  exact ⟨nullableString_eq p.provider_trimmed p.provider_nonempty,
    nullableString_eq p.model_trimmed p.model_nonempty⟩

lemma updateRegistry_does {preferredInferenceApi : Option String} (hrouted : Routed p s0 s) :
    Does readers p s0 (Split (fun s' _ => Routed p s0 s' ∧ RowSwitched p s')
        fun s' _ => Routed p s0 s') (updateRegistry p preferredInferenceApi) s := by
  have hask : Does readers p s0 (Split (fun s' updated => Routed p s0 s' ∧
      (updated = true → RowSwitched p s')) fun s' _ => Routed p s0 s')
      (updateSandbox (registryFields p preferredInferenceApi)) s := by
    refine ⟨hrouted.inStep, fun s' answer hcan => ?_⟩
    cases answer with
    | error e =>
      have hrouted' : Routed p s0 s' := by
        rcases hcan with rfl | rfl
        · exact hrouted
        · exact hrouted.of_selections rfl
      exact .done hrouted'.inStep hrouted'
    | ok updated =>
      cases updated with
      | false => obtain rfl := hcan; exact .done hrouted.inStep ⟨hrouted, nofun⟩
      | true =>
        obtain ⟨-, rfl⟩ := hcan
        have hrouted' : Routed p s0
            { s with row := some (registryFields p preferredInferenceApi) } :=
          hrouted.of_selections rfl
        exact .done hrouted'.inStep ⟨hrouted', fun _ => ⟨_, rfl, registryFields_switched p _⟩⟩
  refine hask.bind (fun s1 updated hinv1 h1 => .done hinv1 ?_) fun s1 e _ h1 => h1
  cases updated with
  | true => exact ⟨h1.1, h1.2 rfl⟩
  | false => exact h1.1

structure Switched (p : Prepared) (s0 s : State) : Prop where
  routed : Routed p s0 s
  row : RowSwitched p s

lemma Switched.of_same {s' : State} (h : Switched p s0 s)
    (hselections : s'.selections = s.selections) (hrow : s'.row = s.row) : Switched p s0 s' := by
  refine ⟨h.routed.of_selections hselections, ?_⟩
  obtain ⟨row, hs, hswitched⟩ := h.row; exact ⟨row, hrow.trans hs, hswitched⟩

lemma revokeSuperseded_does (h : Switched p s0 s) :
    Does readers p s0 (fun s' _ => s' = s) (revokeSuperseded p) s := by
  unfold revokeSuperseded
  cases p.supersededHttpsPinRouteId with
  | none => exact .done h.routed.inStep rfl
  | some routeId =>
    refine ⟨h.routed.inStep, fun s' answer hcan => ?_⟩
    obtain rfl : s' = s := hcan; exact .done h.routed.inStep rfl

/-- The configuration and its hash are as the switch writes them. -/
def Synced (config : Json) (s : State) : Prop := s.config = config ∧ s.hashed = config

lemma recomputeHash_does {config : Json} (h : Switched p s0 s) (hconfig : s.config = config) :
    Does readers p s0 (Split (fun s' synced => Switched p s0 s' ∧ (synced = true → Synced config s'))
        fun s' _ => Switched p s0 s') recomputeHash s := by
  refine ⟨h.routed.inStep, fun s' answer hcan => ?_⟩
  cases answer with
  | ok u =>
    obtain rfl := hcan
    have hsame : Switched p s0 { s with hashed := s.config } := h.of_same rfl rfl
    exact .done hsame.routed.inStep ⟨hsame, fun _ => ⟨hconfig, hconfig⟩⟩
  | error e =>
    obtain ⟨partial', rfl⟩ := hcan
    have hsame : Switched p s0 { s with hashed := partial' } := h.of_same rfl rfl
    exact .done hsame.routed.inStep ⟨hsame, nofun⟩

lemma syncConfig_does {config : Json} (h : Switched p s0 s) :
    Does readers p s0 (Split (fun s' synced => Switched p s0 s' ∧ (synced = true → Synced config s'))
        fun s' _ => Switched p s0 s') (syncConfig config) s := by
  refine ⟨h.routed.inStep, fun s' answer hcan => ?_⟩
  cases answer with
  | ok u =>
    obtain rfl := hcan
    have hsame : Switched p s0 { s with config } := h.of_same rfl rfl
    exact recomputeHash_does hsame rfl
  | error e =>
    obtain ⟨partial', rfl⟩ := hcan
    have hsame : Switched p s0 { s with config := partial' } := h.of_same rfl rfl
    exact .done hsame.routed.inStep ⟨hsame, nofun⟩

lemma seedDashboard_does {synced : Bool} (h : Switched p s0 s) :
    Does readers p s0 (fun s' _ => s' = s) (seedDashboard p synced) s := by
  unfold seedDashboard
  split
  · refine ⟨h.routed.inStep, fun s' answer hcan => ?_⟩
    obtain rfl : s' = s := hcan
    cases answer <;> exact .done h.routed.inStep rfl
  · exact .done h.routed.inStep rfl

def Returned (p : Prepared) (s : State) (result : Result) : Prop :=
  s.selection = some p.requested ∧ RowSwitched p s ∧
    (result.inSandboxConfigSynced = true → ∃ patched, p.patched = .ok patched ∧
      Synced patched.config s)

lemma applyConfig_does (h : Switched p s0 s) :
    Does readers p s0 (Split (Returned p) fun s' _ => Routed p s0 s') (applyConfig p) s := by
  refine (revokeSuperseded_does h).bind (fun s1 _ hinv1 h1 => ?_) fun s1 _ _ h1 => ?_
  · subst h1
    refine Always.lift hinv1 (fun patched hpatched => ?_) fun e _ => h.routed
    refine (syncConfig_does h).bind (fun s2 synced hinv2 h2 => ?_) fun s2 e _ h2 => h2.routed
    obtain ⟨h2, hsynced⟩ := h2
    refine (seedDashboard_does h2).bind (fun s3 dashboard hinv3 h3 => ?_) fun s3 e _ h3 => ?_
    · subst h3
      refine ⟨hinv3, fun s4 answer hcan => ?_⟩
      obtain rfl : s4 = s3 := hcan
      cases answer with
      | error e => exact .done hinv3 h2.routed
      | ok sessionUpdated =>
      refine ⟨hinv3, fun s5 audited hcan => ?_⟩
      obtain rfl : s5 = s4 := hcan
      cases audited with
      | error e => exact .done hinv3 h2.routed
      | ok u =>
        refine .done hinv3 ⟨h2.routed.selection, h2.row, fun hresult => ?_⟩
        exact ⟨patched, hpatched, hsynced hresult⟩
    · subst h3; exact h2.routed
  · subst h1; exact h.routed

lemma converge_does (h : Routed p s0 s) :
    Does readers p s0 (Split (Returned p) fun s' _ => Routed p s0 s') (converge p) s := by
  refine (updateRegistry_does h).bind (fun s1 _ _ h1 => ?_) fun _ _ _ h1 => h1
  refine (updateRegistry_does h1.1).bind (fun s2 _ _ h2 => ?_) fun _ _ _ h2 => h2
  exact applyConfig_does ⟨h2.1, h2.2⟩

/-- A run that came to the selection ends after more selections than it began with. -/
abbrev Made (s0 s : State) : Prop := s0.selections.length < s.selections.length

lemma restoreSelection_does {α : Type} {ok : State → α → Prop} {m : ProviderMutation}
    {providerError : Failure} (hrow : s.row = s0.row) (hmade : Made s0 s) :
    Does readers p s0 (Split ok fun s' _ => Made s0 s') (restoreSelection p m providerError) s := by
  refine (@captureOpenshell_does readers p s0 s (.inferenceSet p.previous true)
    (InStep.of_row hrow) (InStep.of_row hrow)).bind (fun s1 result hinv1 h1 => ?_)
    fun _ _ _ h1 => ?_
  · obtain ⟨_, -, hs1, -⟩ := h1
    have hmade1 : Made s0 s1 := by
      rw [hs1]
      split
      · exact Nat.lt_succ_of_lt hmade
      · exact hmade
    split <;> exact .done hinv1 hmade1
  · obtain ⟨_, heq, -⟩ := h1; cases heq

lemma convergeOrThrow_does (h : Routed p s0 s) :
    Does readers p s0 (Split (Returned p) fun s' _ => Made s0 s') (convergeOrThrow p) s := by
  refine (converge_does h).attempt_bind fun s1 r hinv1 h1 => ?_
  cases r with
  | ok result => exact .done hinv1 h1
  | error e => exact .done hinv1 h1.made

lemma afterSelection_does {mutation : Option ProviderMutation} (h : Routed p s0 s)
    (hrow : s.row = s0.row) :
    Does readers p s0 (Split (Returned p) fun s' _ => Made s0 s')
      (afterSelection readers p mutation) s := by
  cases mutation with
  | none =>
    refine (converge_does h).mono fun s1 r _ h1 => ?_
    cases r with
    | ok result => exact h1
    | error e => exact h1.made
  | some m =>
    have hcommit : Does readers p s0 (fun s' _ => Routed p s0 s' ∧ s'.row = s0.row)
        (commit readers p m) s := by
      unfold commit
      cases m.action with
      | create => exact .done h.inStep ⟨h, hrow⟩
      | update =>
      refine (applyMutation_does h.inStep fun s' _ hrow' => InStep.of_row (hrow'.trans hrow)).mono
        fun s1 r _ h1 => ?_
      rcases h1 with ⟨rfl, -⟩ | ⟨rfl, -⟩
      · exact ⟨h, hrow⟩
      · exact ⟨h.of_selections rfl, hrow⟩
    refine hcommit.attempt_bind fun s1 r _ h1 => ?_
    cases r with
    | ok u => exact convergeOrThrow_does h1.1
    | error e => exact restoreSelection_does h1.2 h1.1.made

lemma selectAndConverge_does {mutation : Option ProviderMutation} (hleft : Left p s0 s mutation) :
    Does readers p s0 (Split (Returned p) fun s' e => NotSelected p s0 s' e ∨ Made s0 s')
      (selectAndConverge readers p mutation) s := by
  obtain ⟨hselections, hrow⟩ := hleft.before
  refine (selectRoute_does hrow).attempt_bind fun s1 r _ h1 => ?_
  cases r with
  | error e =>
    obtain rfl : s1 = s := h1
    refine (@rollbackAndThrow_does readers p s0 s1 Result (Returned p) mutation e hleft).mono
      fun s2 r _ h2 => ?_
    cases r with
    | ok result => exact h2
    | error e' => exact .inl h2
  | ok u =>
    obtain rfl : s1 = { s with selections := p.requested :: s.selections } := h1
    have hrouted : Routed p s0 { s with selections := p.requested :: s.selections } := by
      refine ⟨rfl, ?_⟩
      rw [hselections]; exact Nat.lt_succ_self _
    refine (afterSelection_does hrouted hrow).mono fun s2 r _ h2 => ?_
    cases r with
    | ok result => exact h2
    | error e => exact .inr h2

/-- Whatever the commands and the writes come to, from any state: at every point of the
switch the registry row is the old one or the gateway routes to what is requested; a switch
that returns leaves both as requested, and says that the configuration is synced only if it
and its hash were written; and one that throws before a selection command took effect leaves
the selection and the row as they were, and the providers too, except for a provider of its
own that the gateway did not show as created or did not confirm to be removed, as the error
says. -/
theorem runInferenceSetWithoutHostLock_inStep (readers : Readers) (p : Prepared) (s0 : State) :
    Always (Can readers) (fun s => s.row ≠ s0.row → s.selection = some p.requested)
      (fun s r => (∀ result, r = .ok result → Returned p s result) ∧
        ∀ e, r = .error e → s.selections = s0.selections →
          s.row = s0.row ∧ (s.providers = s0.providers ∨
            (∃ binding, s0.providers p.provider = none ∧
              s.providers = Function.update s0.providers p.provider (some binding)) ∧
            (e = notConverged p .create ∨ ∃ e', e = rollbackFailed e' (removalFailed p))))
      (runInferenceSetWithoutHostLock readers p) s0 := by
  have hrun : Does readers p s0
      (Split (Returned p) fun s' e => NotSelected p s0 s' e ∨ Made s0 s')
      (runInferenceSetWithoutHostLock readers p) s0 := by
    refine prepareMutation_does.bind (fun s1 mutation hinv1 h1 => ?_) fun s1 e _ h1 => .inl h1
    cases hcheck : checkMutation p mutation with
    | error e =>
      refine (@rollbackAndThrow_does readers p s0 s1 Result (Returned p) mutation e h1).mono
        fun s2 r _ h2 => ?_
      cases r with
      | ok result => exact h2
      | error e' => exact .inl h2
    | ok kept => exact selectAndConverge_does (checkMutation_left h1 hcheck)
  refine hrun.mono fun s r _ h => ?_
  cases r with
  | ok result =>
    refine ⟨fun result' hresult => ?_, fun e he => (by cases he)⟩
    cases hresult; exact h
  | error e =>
    refine ⟨fun result hresult => (by cases hresult), fun e' he hselections => ?_⟩
    cases he
    rcases h with (hclean | hprovider) | hmade
    · exact ⟨hclean.row, .inl hclean.providers⟩
    · obtain ⟨⟨⟨-, hrow⟩, habsent, binding, hproviders⟩, hsays⟩ := hprovider
      exact ⟨hrow, .inr ⟨⟨binding, habsent, hproviders⟩, hsays⟩⟩
    · have hlt : s0.selections.length < s.selections.length := hmade
      rw [hselections] at hlt; exact absurd hlt (lt_irrefl _)

end Parts

section Example

def endpointBinding : ProviderBinding :=
  ⟨.openai, "COMPATIBLE_API_KEY", "key", "https://inference.example.com/v1"⟩

/-- A switch from another provider to a new endpoint. -/
def toEndpoint : Prepared where
  sandboxName := "alpha"
  gatewayName := "nemoclaw"
  hermes := false
  entry := ⟨some "nvidia-prod", some "nemotron", none, none, none, none, none, none⟩
  provider := "compatible-endpoint"
  model := "qwen"
  provider_trimmed := by decide +kernel
  provider_nonempty := by decide
  model_trimmed := by decide +kernel
  model_nonempty := by decide
  effectiveNoVerify := false
  directProviderBinding := some endpointBinding
  httpsPinProviderBinding := none
  reasoningEffortRequest := ⟨none, false⟩
  registryMetadata := ⟨some "https://inference.example.com/v1", some "inference-set",
    some "COMPATIBLE_API_KEY", some "openai-completions", none⟩
  registryInferenceApi := some "openai-completions"
  preferredInferenceApi := some "openai-completions"
  supersededHttpsPinRouteId := none
  patched := .ok ⟨true, .null⟩

def notFoundReaders : Readers where
  parseGatewayProviderMetadata _ := none
  parseProviderVersion _ := none
  providerLookupReportsNotFound result _ :=
    result.stderr = "provider 'compatible-endpoint' not found"
  openshellReportsProviderNotFound _ _ := false
  buildFailureMessage _ _ := "inference set failed"

def routedToNvidia : State where
  selections := [⟨"nvidia-prod", "nemotron"⟩]
  providers _ := none
  row := some toEndpoint.entry
  config := .null
  hashed := .null

/-- The provider is created, the look at it fails, and it stays although no selection was
made. -/
theorem runInferenceSetWithoutHostLock_createdStays :
    ∃ s e, Ends (Can notFoundReaders) routedToNvidia
        (runInferenceSetWithoutHostLock notFoundReaders toEndpoint) s (.error e) ∧
      s.selections = routedToNvidia.selections ∧ s.providers ≠ routedToNvidia.providers := by
  let created : State := { routedToNvidia with
    providers := Function.update routedToNvidia.providers "compatible-endpoint"
      (some endpointBinding) }
  have hlookup : Command.Takes notFoundReaders routedToNvidia (.providerGet "compatible-endpoint")
      routedToNvidia ⟨some 1, "", "provider 'compatible-endpoint' not found"⟩ :=
    ⟨rfl, fun _ _ => rfl⟩
  have hcreate : Command.Takes notFoundReaders routedToNvidia
      (.providerCreate "compatible-endpoint" endpointBinding) created ⟨some 0, "", ""⟩ :=
    ⟨rfl, trivial⟩
  have hlook : Command.Takes notFoundReaders created (.providerGet "compatible-endpoint")
      created ⟨some 1, "", "gateway unavailable"⟩ :=
    ⟨rfl, fun _ hfound => absurd hfound (by decide)⟩
  refine ⟨created, notConverged toEndpoint .create,
    .call hlookup (.call hcreate (.call hlook .done)), rfl, fun hsame => ?_⟩
  have hprovider := congrFun hsame "compatible-endpoint"
  simp [created, routedToNvidia] at hprovider

end Example

end NemoClaw.InferenceSet
