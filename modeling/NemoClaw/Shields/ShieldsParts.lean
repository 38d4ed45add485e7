import NemoClaw.Shields.ShieldsHost

/- What the parts of the shields commands come to.

Restoring a policy and locking the configuration only harden the sandbox, however far they
get. A relock that is reported as verified has the configuration locked, and a lockdown
that is reported as activated has the restrictive policy set as well.

What is provided:
  1. `…_calls` — programs of passive or quiet calls.
  2. `saveShieldsState_does`, `updateState_does` — the writes of the state file.
  3. `applyShieldsPolicySnapshot_does`, `lockAgentConfig_does`, `relock_does`,
     `activateLockdownFromSnapshot_does` — restoring and locking.
-/
namespace NemoClaw.Shields

open Js CallTree

/-! ## Passive programs -/

section Passive

lemma writeTransition_calls {transition : ShieldsDownTransition} :
    (writeTransition transition).Calls Call.Passive := .bind (.ask trivial) fun _ => .done

lemma writeShieldsDownTransition_calls {transition : ShieldsDownTransition}
    {expectedPhase : Option Phase} :
    (writeShieldsDownTransition transition expectedPhase).Calls Call.Passive := by
  unfold writeShieldsDownTransition
  split
  · exact writeTransition_calls
  · exact .bind (.ask trivial) fun _ => .bind .done fun _ => writeTransition_calls

lemma clearTransition_calls {transition : Option ShieldsDownTransition} :
    (clearTransition transition).Calls Call.Passive := by
  cases transition with
  | none => exact .done
  | some transition => exact .ask trivial

lemma clearMarkerTransition_calls {marker : Option TimerMarker} :
    (clearMarkerTransition marker).Calls Call.Passive := by
  unfold clearMarkerTransition
  split
  · exact .done
  · exact .ask trivial

lemma appendAuditEntry_calls : appendAuditEntry.Calls Call.Passive :=
  .bind (.ask trivial) fun _ => .done

lemma resolveAgentConfig_calls : resolveAgentConfig.Calls Call.Passive :=
  .bind (.ask trivial) fun _ => .done

lemma resolveTarget_calls : resolveTarget.Calls Call.Passive :=
  .bind resolveAgentConfig_calls fun _ => .done

lemma requireHermesShieldsProtocol_calls {target : AgentConfigTarget} {allow : Bool} :
    (requireHermesShieldsProtocol target allow).Calls Call.Passive := by
  refine .bind (.ite (fun _ => .done) fun _ => ?_) fun _ => .ite (fun _ => .done) fun _ => .done
  exact .bind (.ask trivial) fun _ => .done

lemma resolveHermesShieldsProtocol_calls {target : AgentConfigTarget} {allow : Bool}
    {cached : Option HermesShieldsProtocol} :
    (resolveHermesShieldsProtocol target allow cached).Calls Call.Passive := by
  cases cached with
  | none => exact .bind requireHermesShieldsProtocol_calls fun _ => .done
  | some protocol => exact .done

lemma restoreTransition_calls {path : String} {options : RestoreOptions} :
    (restoreTransition path options).Calls Call.Passive := by
  unfold restoreTransition
  split
  · exact .done
  refine .ite (fun _ => .done) fun _ => .bind (.ask trivial) fun transition => ?_
  cases transition with
  | none => exact .bind (.ask trivial) fun _ => .ite (fun _ => .done) fun _ => .done
  | some found => exact .ite (fun _ => .done) fun _ => .done

lemma expiredTimerIsInactive_calls {marker : TimerMarker} :
    (expiredTimerIsInactive marker).Calls Call.Passive := by
  refine .bind (.ask trivial) fun _ => .ite (fun _ => .done) fun _ => ?_
  refine .bind (.ask trivial) fun _ => .ite (fun _ => .done) fun _ => ?_
  exact .bind (.ask trivial) fun _ => .done

lemma checkDeadlineAuthority_calls {pid : ℕ} {path : String} {options : RestoreOptions} :
    (checkDeadlineAuthority pid path options).Calls Call.Passive := by
  refine .ite (fun _ => .done) fun _ => .bind (.ask trivial) fun marker => ?_
  cases marker with
  | none => exact .done
  | some marker =>
    exact .ite (fun _ => .bind expiredTimerIsInactive_calls fun _ => .done) fun _ => .done

lemma resolvePersistedAutoRestoreTarget_calls {agentName : Option String}
    {configPath configDir : String} :
    (resolvePersistedAutoRestoreTarget agentName configPath configDir).Calls Call.Passive :=
  .ite (fun _ => .done) fun _ => .bind resolveAgentConfig_calls.attempt fun _ => .done

lemma timerStanding_calls {marker : TimerMarker} :
    (timerStanding marker).Calls Call.Passive := by
  refine .bind (.ask trivial) fun time => ?_
  cases marker.restoreAt.ms with
  | none => exact .done
  | some restoreAt =>
  refine .ite (fun _ => .done) fun _ => .bind (.ask trivial) fun _ => ?_
  refine .ite (fun _ => .done) fun _ => .bind (.ask trivial) fun warning => ?_
  cases warning with
  | none => exact .ite (fun _ => .done) fun _ => .done
  | some _ => exact .done

lemma Calls.quiet {α : Type} {t : Program α} (h : t.Calls Call.Passive) :
    t.Calls Call.Quiet := by
  induction t with
  | done r => exact .done
  | call q k ih => exact ⟨h.1.quiet, fun x => ih x (h.2 x)⟩

lemma clearTimerMarker_calls : clearTimerMarker.Calls Call.Quiet := .ask trivial

lemma killTimer_calls : killTimer.Calls Call.Quiet := by
  refine .bind (.ask trivial) fun marker => .bind ?_ fun _ => .bind (.ask trivial) fun _ => .done
  cases marker with
  | none => exact .done
  | some marker => exact .bind (.ask trivial) fun _ => .ite (fun _ => .ask trivial) fun _ => .done

end Passive

section StateFile

variable {restrictive : String → Prop} {mayFail : Reader → Prop} {tracked : Prop}
  {s0 s : Host}

lemma loadShieldsState_does (hinv : Invariant restrictive tracked s0 s) :
    Does restrictive mayFail tracked s0
      (Split (fun s' file => s' = s ∧ CanRead mayFail s .load file) fun _ _ => False)
      loadShieldsState s :=
  Always.ask hinv fun _ _ hcan => ⟨hcan.1.symm ▸ hinv, hcan⟩

def Updated (mayFail : Reader → Prop) (s : Host) (reader : Reader) (patch : ShieldsPatch)
    (file : StateFile) : Prop :=
  ∃ current updatedAt, CanRead mayFail s reader current ∧
    file = .present (patch.apply current.state updatedAt)

lemma Invariant.failed {file : StateFile}
    (h : Invariant restrictive tracked s0 { s with stateFile := file }) :
    Invariant restrictive tracked s0 { s with stateFile := file, writeFailed := true } where
  sound := h.sound
  window := fun ht => (h.window ht).imp_left fun hfirm =>
    ⟨⟨hfirm.1.policy, hfirm.1.configLocked⟩, hfirm.2⟩
  real := h.real

def Written (s : Host) (new : StateFile → Prop) (torn : StateFile → Prop) :
    Host → Except Failure Unit → Prop :=
  Split (fun s' _ => ∃ file, new file ∧ s' = { s with stateFile := file })
    fun s' _ => ∃ file, (file = s.stateFile ∨ torn file ∨ new file) ∧
      s' = { s with stateFile := file, writeFailed := true }

lemma writeStateFile_does {state : ShieldsState} (hinv : Invariant restrictive tracked s0 s)
    (hnew : Invariant restrictive tracked s0 { s with stateFile := .present state })
    (htorn : Invariant restrictive tracked s0 { s with stateFile := .corrupt }) :
    Does restrictive mayFail tracked s0
      (Written s (· = .present state) (· = .corrupt)) (writeStateFile state) s := by
  refine ⟨hinv, fun s' answer hcan => ?_⟩
  cases answer with
  | ok _ =>
    have hs : s' = { s with stateFile := .present state } := hcan
    exact ⟨hs ▸ hnew, .present state, rfl, hs⟩
  | error e =>
    obtain ⟨file, hfile, hs⟩ := hcan
    refine ⟨?_, file, hfile, hs⟩
    rw [hs]
    apply Invariant.failed
    obtain rfl | rfl | rfl := hfile
    · exact hinv
    · exact htorn
    · exact hnew

theorem saveShieldsState_does {patch : ShieldsPatch}
    (hinv : Invariant restrictive tracked s0 s)
    (hnew : ∀ file, Updated mayFail s (.save patch) patch file →
      Invariant restrictive tracked s0 { s with stateFile := file })
    (htorn : Invariant restrictive tracked s0 { s with stateFile := .corrupt }) :
    Does restrictive mayFail tracked s0
      (Written s (Updated mayFail s (.save patch) patch) (· = .corrupt))
      (saveShieldsState patch) s := by
  refine ⟨hinv, fun s1 current hread => ?_⟩
  obtain ⟨rfl, hcurrent⟩ := hread
  refine ⟨hinv, fun s2 time hsame => ?_⟩
  obtain rfl : s2 = s1 := hsame
  have hupdated := fun updatedAt : String =>
    (⟨current, updatedAt, hcurrent, rfl⟩ : Updated mayFail s2 (.save patch) patch _)
  refine (writeStateFile_does hinv (hnew _ (hupdated _)) htorn).mono fun s' r _ h => ?_
  cases r with
  | ok _ => obtain ⟨_, rfl, hs⟩ := h; exact ⟨_, hupdated _, hs⟩
  | error e =>
    obtain ⟨file, hfile, hs⟩ := h
    refine ⟨file, hfile.imp_right (Or.imp_right fun heq => ?_), hs⟩
    exact heq ▸ hupdated _

theorem updateState_does {patch : ShieldsPatch} (hinv : Invariant restrictive tracked s0 s)
    (hnew : ∀ file, Updated mayFail s (.timer patch) patch file →
      Invariant restrictive tracked s0 { s with stateFile := file }) :
    Does restrictive mayFail tracked s0
      (Written s (Updated mayFail s (.timer patch) patch) fun _ => False)
      (TimerArgs.updateState patch) s := by
  refine ⟨hinv, fun s1 current hread => ?_⟩
  obtain ⟨rfl, hcurrent⟩ := hread
  refine ⟨hinv, fun s2 time hsame => ?_⟩
  obtain rfl : s2 = s1 := hsame
  refine ⟨hinv, fun s' answer hcan => ?_⟩
  have hupdated : Updated mayFail s2 (.timer patch) patch
      (.present (patch.apply current.state time.1.iso)) := ⟨current, _, hcurrent, rfl⟩
  cases answer with
  | ok _ =>
    have hs : s' = { s2 with stateFile := .present (patch.apply current.state time.1.iso) } := hcan
    exact ⟨hs ▸ hnew _ hupdated, _, hupdated, hs⟩
  | error e =>
    obtain ⟨file, hfile, hs⟩ := hcan
    rw [hs]
    obtain rfl | rfl := hfile
    · exact ⟨.failed hinv, _, .inl rfl, rfl⟩
    · exact ⟨.failed (hnew _ hupdated), _, .inr (.inr hupdated), rfl⟩

end StateFile

section Restoring

variable {restrictive : String → Prop} {mayFail : Reader → Prop} {tracked : Prop}
  {s0 s : Host} {pid : ℕ} {path : String} {options : RestoreOptions}

lemma readSnapshot_does (hinv : Invariant restrictive tracked s0 s)
    (hpath : Restrictive restrictive s path) :
    Does restrictive mayFail tracked s0
      (Split (fun s' text => s' = s ∧ restrictive text) fun s' _ => s' = s)
      (readSnapshot path) s := by
  refine ⟨hinv, fun s' answer hcan => ?_⟩
  obtain ⟨rfl, htext⟩ := hcan
  refine ⟨hinv, ?_⟩
  cases answer with
  | ok text => exact ⟨rfl, hpath text (htext text rfl)⟩
  | error e => rfl

/-- A restrictive text, or an error; nothing is touched but transitions. -/
abbrev Composed (restrictive : String → Prop) (s : Host) : Host → Except Failure String → Prop :=
  Split (fun s' text => Idle s s' ∧ restrictive text) fun s' _ => Idle s s'

lemma buildRuntimeManagedMcpPolicy_does {base : String} {policies : List ManagedMcpPolicy}
    {keys : List String} (hinv : Invariant restrictive tracked s0 s) (hbase : restrictive base) :
    Does restrictive mayFail tracked s0 (Composed restrictive s)
      (buildRuntimeManagedMcpPolicy base policies keys) s := by
  refine ⟨hinv, fun s' answer hcan => ?_⟩
  obtain ⟨rfl, htext⟩ := hcan
  refine ⟨hinv, ?_⟩
  cases answer with
  | ok text => exact ⟨.refl, htext text rfl hbase⟩
  | error e => exact .refl

lemma buildDeadlineRuntimeManagedMcpPolicy_does {base : String}
    {policies : List ManagedMcpPolicy} {keys : List String}
    (hinv : Invariant restrictive tracked s0 s) (hbase : restrictive base) :
    Does restrictive mayFail tracked s0 (Composed restrictive s)
      (buildDeadlineRuntimeManagedMcpPolicy base policies keys) s := by
  refine ⟨hinv, fun s' answer hcan => ?_⟩
  obtain ⟨rfl, htext⟩ := hcan
  refine ⟨hinv, ?_⟩
  cases answer with
  | ok text => exact ⟨.refl, htext text rfl hbase⟩
  | error e => exact .refl

lemma composeSnapshot_does {compose : String → Program String}
    (hinv : Invariant restrictive tracked s0 s) (hpath : Restrictive restrictive s path)
    (hcompose : ∀ base, restrictive base →
      Does restrictive mayFail tracked s0 (Composed restrictive s) (compose base) s) :
    Does restrictive mayFail tracked s0 (Composed restrictive s)
      ((readSnapshot path).bind compose) s := by
  refine (readSnapshot_does hinv hpath).bind (fun s1 base _ h => ?_) fun s1 e _ h => ?_
  · obtain ⟨rfl, hbase⟩ := h; exact hcompose base hbase
  · obtain rfl : s1 = s := h; exact Idle.refl

/-- The text that is to be set is as restrictive as the snapshot. -/
lemma runtimePolicy_does {keys : Option (List String)} {deadline : Bool}
    (hinv : Invariant restrictive tracked s0 s) (hpath : Restrictive restrictive s path) :
    Does restrictive mayFail tracked s0 (Composed restrictive s)
      (runtimePolicy path keys deadline) s := by
  cases deadline with
  | true =>
    refine ⟨hinv, fun s1 policies hsame => ?_⟩
    obtain rfl : s1 = s := hsame
    exact composeSnapshot_does hinv hpath fun base =>
      buildDeadlineRuntimeManagedMcpPolicy_does hinv
  | false =>
    cases keys with
    | some keys =>
      refine ⟨hinv, fun s1 answer hsame => ?_⟩
      obtain rfl : s1 = s := hsame
      cases answer with
      | ok policies =>
        exact composeSnapshot_does hinv hpath fun base =>
          buildRuntimeManagedMcpPolicy_does hinv
      | error e => exact ⟨hinv, Idle.refl⟩
    | none =>
      refine composeSnapshot_does hinv hpath fun base hbase => ?_
      refine ⟨hinv, fun s1 answer hsame => ?_⟩
      obtain rfl : s1 = s := hsame
      cases answer with
      | ok _ => exact ⟨hinv, .refl, hbase⟩
      | error e => exact ⟨hinv, Idle.refl⟩

/-- A part that only hardens, and has reached something if it says so. -/
abbrev Hardening {α : Type} (restrictive : String → Prop) (s : Host) (reached : Host → α → Prop) :
    Host → Except Failure α → Prop :=
  Split (fun s' a => Hardens restrictive s s' ∧ reached s' a) fun s' _ => Hardens restrictive s s'

lemma Hardening.after {α : Type} {s' s'' : Host} {reached : Host → α → Prop}
    {r : Except Failure α} (h : Hardens restrictive s s')
    (hr : Hardening restrictive s' reached s'' r) : Hardening restrictive s reached s'' r := by
  cases r with
  | ok a => exact ⟨h.trans hr.1, hr.2⟩
  | error e => exact h.trans hr

lemma Hardening.hardens {α : Type} {s' : Host} {reached : Host → α → Prop}
    {r : Except Failure α} (h : Hardening restrictive s reached s' r) :
    Hardens restrictive s s' := by
  cases r with
  | ok a => exact h.1
  | error e => exact h

lemma Hardening.passive {α β : Type} {t : Program α} {f : α → Program β}
    {reached : Host → β → Prop} (ht : t.Calls Call.Passive)
    (hinv : Invariant restrictive tracked s0 s)
    (hf : ∀ s' a, Idle s s' → Invariant restrictive tracked s0 s' →
      Does restrictive mayFail tracked s0 (Hardening restrictive s' reached) (f a) s') :
    Does restrictive mayFail tracked s0 (Hardening restrictive s reached) (t.bind f) s := by
  refine (idle ht hinv).bind (fun s1 a hinv1 h1 => ?_) fun s1 e _ h1 => h1.hardens
  exact (hf s1 a h1 hinv1).mono fun _ _ _ h => h.after h1.hardens

lemma setPolicy_restore_does {policy : String} (hinv : Invariant restrictive tracked s0 s)
    (hpolicy : restrictive policy) :
    Does restrictive mayFail tracked s0
      (Hardening restrictive s fun s' status => status = some 0 → restrictive s'.policy)
      (setPolicy .restore policy) s := by
  refine Always.ask hinv fun s' (status : Option ℤ) hcan => ?_
  have hs : s' = if status = some 0 then { s with policy := policy }
    else { s with relaxRejected := s.relaxRejected || decide (Purpose.restore = .relax) } := hcan
  have hhardens : Hardens restrictive s s' := by
    rw [hs]
    split
    · exact ⟨rfl, rfl, rfl, rfl, rfl, .inr hpolicy, id, id⟩
    · exact ⟨rfl, rfl, rfl, by simp, rfl, .inl rfl, id, id⟩
  refine ⟨hinv.hardens hhardens, hhardens, fun hstatus => ?_⟩
  rw [hs, if_pos hstatus]; exact hpolicy

theorem applyShieldsPolicySnapshot_does (hinv : Invariant restrictive tracked s0 s)
    (hpath : Restrictive restrictive s path) :
    Does restrictive mayFail tracked s0
      (Hardening restrictive s fun s' status => status = some 0 → restrictive s'.policy)
      (applyShieldsPolicySnapshot pid path options) s := by
  refine Hardening.passive (.ask trivial) hinv fun s1 file h1 hinv1 => ?_
  refine Hardening.passive restoreTransition_calls hinv1 fun s2 transition h2 hinv2 => ?_
  refine Hardening.passive checkDeadlineAuthority_calls hinv2 fun s3 _ h3 hinv3 => ?_
  refine Hardening.passive .done hinv3 fun s4 _ h4 hinv4 => ?_
  have hpath4 := hpath.hardens (((h1.trans h2).trans h3).trans h4).hardens
  refine (runtimePolicy_does hinv4 hpath4).bind (fun s5 policy hinv5 h5 => ?_)
    fun s5 e _ h5 => Idle.hardens h5
  obtain ⟨hidle, hpolicy⟩ := h5
  exact (setPolicy_restore_does hinv5 hpolicy).mono fun _ _ _ h => h.after hidle.hardens

/-- The configuration is locked, and a lock says so. -/
structure Locked (s : Host) : Prop where
  configLocked : s.configLocked
  lockConfirmed : s.lockConfirmed

lemma Locked.hardens {s' : Host} (h : Locked s) (hs : Hardens restrictive s s') : Locked s' :=
  ⟨hs.configLocked h.configLocked, hs.lockConfirmed h.lockConfirmed⟩

lemma restoreAfterHandoff_does {token : String} {transition : ShieldsDownTransition}
    {expired retain : Bool} (hinv : Invariant restrictive tracked s0 s)
    (hpath : Restrictive restrictive s transition.snapshotPath) :
    Does restrictive mayFail tracked s0 (Hardening restrictive s fun _ _ => True)
      (restoreAfterHandoff pid token transition expired retain) s := by
  refine Hardening.passive (.ask trivial) hinv fun s1 marker h1 hinv1 => ?_
  refine (applyShieldsPolicySnapshot_does hinv1 (hpath.hardens h1.hardens)).bind
    (fun s2 status hinv2 h2 => ?_) fun s2 e _ h2 => h2
  have hclear : Does restrictive mayFail tracked s0 (Hardening restrictive s2 fun _ _ => True)
      ((Tree.lift (checkHandoffStatus status)).bind fun _ =>
        if retain then return () else clearShieldsDownTransition token) s2 := by
    refine Hardening.passive .done hinv2 fun s3 _ h3 hinv3 => ?_
    refine .ite (fun _ => ⟨hinv3, .refl, trivial⟩) fun _ => ?_
    have hcalls : (clearShieldsDownTransition token).Calls Call.Passive := .ask trivial
    refine (idle hcalls hinv3).mono fun s4 r _ h4 => ?_
    cases r with
    | ok _ => exact ⟨h4.hardens, trivial⟩
    | error e => exact h4.hardens
  exact hclear.mono fun _ _ _ h => h.after h2.1

lemma synchronizeAutoRestoreTransition_does {token : String} {expired retain : Bool}
    (hinv : Invariant restrictive tracked s0 s) (hpath : Restrictive restrictive s path) :
    Does restrictive mayFail tracked s0 (Hardening restrictive s fun _ _ => True)
      (synchronizeAutoRestoreTransition pid token path expired retain) s := by
  refine Hardening.passive (.bind (.ask trivial) fun _ => .done) hinv
    fun s1 transition h1 hinv1 => ?_
  cases transition with
  | none => exact ⟨hinv1, .refl, trivial⟩
  | some transition =>
    refine .ite (fun _ => ⟨hinv1, Hardens.refl⟩) fun hsame => ?_
    have heq : transition.snapshotPath = path := not_not.mp hsame
    exact restoreAfterHandoff_does hinv1 (heq ▸ hpath.hardens h1.hardens)

lemma readTimerMarker_does (hinv : Invariant restrictive tracked s0 s) :
    Does restrictive mayFail tracked s0
      (Split (fun s' marker => s' = s ∧ (marker = s.marker ∨ marker = none)) fun _ _ => False)
      readTimerMarker s :=
  Always.ask hinv fun _ _ hcan => ⟨hcan.1.symm ▸ hinv, hcan⟩

lemma Invariant.marker (h : Invariant restrictive tracked s0 s) {marker : TimerMarker}
    (hmarker : some marker = s.marker ∨ some marker = none) :
    s.marker = some marker ∧ Restrictive restrictive s marker.snapshotPath := by
  cases hmarker with
  | inl heq => exact ⟨heq.symm, h.sound _ (.inr ⟨marker, heq.symm, rfl⟩)⟩
  | inr hnone => cases hnone

lemma synchronizeAutoRestoreWithShieldsDown_does (hinv : Invariant restrictive tracked s0 s) :
    Does restrictive mayFail tracked s0 (Hardening restrictive s fun _ _ => True)
      (synchronizeAutoRestoreWithShieldsDown pid) s := by
  refine (readTimerMarker_does hinv).bind (fun s1 marker hinv1 h1 => ?_) fun _ _ _ h1 => h1.elim
  obtain ⟨rfl, hmarker⟩ := h1
  cases marker with
  | none => exact ⟨hinv1, .refl, trivial⟩
  | some marker =>
  obtain ⟨-, hpath⟩ := hinv1.marker hmarker
  dsimp only
  cases marker.takeoverToken with
  | none => exact ⟨hinv1, .refl, trivial⟩
  | some token =>
    exact .ite (fun _ => ⟨hinv1, .refl, trivial⟩) fun _ =>
      synchronizeAutoRestoreTransition_does hinv1 hpath

lemma lockUnderMutationLock_does {target : AgentConfigTarget} {rollback : Bool}
    {protocol : HermesShieldsProtocol} (hinv : Invariant restrictive tracked s0 s) :
    Does restrictive mayFail tracked s0 (Hardening restrictive s fun s' _ => Locked s')
      (lockUnderMutationLock target rollback protocol) s := by
  refine ⟨hinv, fun s' answer hcan => ?_⟩
  cases answer with
  | ok result =>
    have hs : s' = { s with configLocked := true, lockConfirmed := true } := hcan
    have hhardens : Hardens restrictive s s' :=
      hs ▸ ⟨rfl, rfl, rfl, rfl, rfl, .inl rfl, fun _ => rfl, fun _ => rfl⟩
    exact ⟨hinv.hardens hhardens, hhardens, hs ▸ ⟨rfl, rfl⟩⟩
  | error e => obtain rfl : s' = s := hcan; exact ⟨hinv, Hardens.refl⟩

theorem lockAgentConfig_does {target : AgentConfigTarget} {rollback allow : Bool}
    {cached : Option HermesShieldsProtocol} (hinv : Invariant restrictive tracked s0 s) :
    Does restrictive mayFail tracked s0 (Hardening restrictive s fun s' _ => Locked s')
      (lockAgentConfig pid target rollback allow cached) s := by
  refine Hardening.passive resolveHermesShieldsProtocol_calls hinv fun s1 protocol h1 hinv1 => ?_
  refine (synchronizeAutoRestoreWithShieldsDown_does hinv1).bind (fun s2 _ hinv2 h2 => ?_)
    fun s2 e _ h2 => h2
  exact (lockUnderMutationLock_does hinv2).mono fun _ _ _ h => h.after h2.1

lemma relockAndReconfirm_does {lock : Program LockResult} {lastError : Failure} {n : ℕ}
    (hlock : ∀ s, Invariant restrictive tracked s0 s → Does restrictive mayFail tracked s0
      (Hardening restrictive s fun s' _ => Locked s') lock s)
    (hinv : Invariant restrictive tracked s0 s) :
    Does restrictive mayFail tracked s0
      (Hardening restrictive s fun s' r => ∀ result, r = .ok result → Locked s')
      (relockAndReconfirm lock lastError n) s := by
  induction n generalizing s lastError with
  | zero => exact ⟨hinv, .refl, nofun⟩
  | succ n ih =>
    refine (hlock s hinv).attempt_bind fun s1 applied hinv1 h1 => ?_
    cases applied with
    | error e => exact ⟨hinv1, h1, nofun⟩
    | ok first =>
    refine (hlock s1 hinv1).attempt_bind fun s2 confirmed hinv2 h2 => ?_
    cases confirmed with
    | ok result => exact ⟨hinv2, h1.1.trans h2.1, fun _ _ => h2.2⟩
    | error e => exact (ih hinv2).mono fun _ _ _ h => h.after (h1.1.trans h2)

theorem relock_does {target : AgentConfigTarget} {rollback allow : Bool}
    {cached : Option HermesShieldsProtocol} (hinv : Invariant restrictive tracked s0 s) :
    Does restrictive mayFail tracked s0
      (Hardening restrictive s fun s' r => ∀ result, r = .ok result → Locked s')
      (relock (lockAgentConfig pid target rollback allow cached)) s :=
  relockAndReconfirm_does (fun _ => lockAgentConfig_does) hinv

lemma activateLock_does {allow : Bool} {cachedTarget : Option AgentConfigTarget}
    {cachedProtocol : Option HermesShieldsProtocol}
    (hinv : Invariant restrictive tracked s0 s) :
    Does restrictive mayFail tracked s0
      (Hardening restrictive s fun s' r => ∀ result, r = .ok result → Locked s')
      (activateLock pid allow cachedTarget cachedProtocol) s := by
  refine Hardening.passive ?_ hinv fun s1 target h1 hinv1 => ?_
  · cases cachedTarget with
    | none => exact resolveAgentConfig_calls
    | some target => exact .done
  refine Hardening.passive resolveHermesShieldsProtocol_calls.attempt hinv1
    fun s2 protocol h2 hinv2 => ?_
  cases protocol with
  | error e => exact ⟨hinv2, .refl, nofun⟩
  | ok protocol => exact relock_does hinv2

lemma status_zero {status : Option ℤ} (h : status.getD 1 = 0) : status = some 0 := by
  cases status with
  | none => exact absurd h (by decide)
  | some code => exact congrArg some h

theorem activateLockdownFromSnapshot_does {allow : Bool}
    {cachedTarget : Option AgentConfigTarget} {cachedProtocol : Option HermesShieldsProtocol}
    (hinv : Invariant restrictive tracked s0 s) (hpath : Restrictive restrictive s path) :
    Does restrictive mayFail tracked s0
      (Hardening restrictive s fun s' r => ∀ result, r = .ok result →
        restrictive s'.policy ∧ Locked s')
      (activateLockdownFromSnapshot pid path allow cachedTarget cachedProtocol options) s := by
  have hpresent : (snapshotPresent path).Calls Call.Passive :=
    .ite (fun _ => .done) fun _ => .ask trivial
  refine Hardening.passive hpresent hinv fun s1 present h1 hinv1 => ?_
  refine .ite (fun _ => ⟨hinv1, .refl, nofun⟩) fun _ => ?_
  refine (applyShieldsPolicySnapshot_does hinv1 (hpath.hardens h1.hardens)).attempt_bind
    fun s2 restored hinv2 h2 => ?_
  cases restored with
  | error e => exact ⟨hinv2, h2, nofun⟩
  | ok status =>
  refine .ite (fun _ => ⟨hinv2, h2.1, nofun⟩) fun hstatus => ?_
  have hpolicy := h2.2 (status_zero (not_not.mp hstatus))
  refine (activateLock_does hinv2).mono fun s3 r _ h3 => ?_
  cases r with
  | error e => exact h2.1.trans h3
  | ok activation =>
    refine ⟨h2.1.trans h3.1, fun result hresult => ⟨?_, h3.2 result hresult⟩⟩
    exact h3.1.restrictive_policy hpolicy

end Restoring

end NemoClaw.Shields
