import NemoClaw.Shields.ShieldsRaised

/- The command that lowers the shields.

Nothing is weakened before the record says that the shields are down, with the snapshot
and, if there is to be a timer, with the marker. From there the marker and the record stay
until the policy is restored and the lock has succeeded.

What is provided:
  1. `unlockConfig_does`, `rollbackShieldsDown_does` — what happens to a sandbox that is
     recorded as down.
  2. `rejected_does` — the one place where a lockdown is recorded without a lock.
  3. `prepareDescent_does`, `startTimer_does`, `weaken_does` — the order of commit and
     weakening.
  4. `shieldsDownWithoutHostLock_does`.
-/
namespace NemoClaw.Shields

open Js CallTree

section Lowered

variable {restrictive : String → Prop} {mayFail : Reader → Prop} {tracked : Prop}
  {s0 s s' : Host} {d : Descent} {transition : Option ShieldsDownTransition}

/-- Only the configuration may be unlocked. -/
def Loosens (s s' : Host) : Prop :=
  ∃ transitions configLocked, s' = { s with transitions, configLocked }

section

variable (hinv : Invariant restrictive tracked s0 s)
include hinv

lemma Invariant.loosens (htracked : tracked → Tracked s) (hs : Loosens s s') :
    Invariant restrictive tracked s0 s' := by
  obtain ⟨transitions, configLocked, rfl⟩ := hs
  exact ⟨hinv.sound, fun ht => .inr (htracked ht), hinv.real⟩

lemma unlockAgentConfig_does {target : AgentConfigTarget} {rollback allow : Bool}
    {cached : Option HermesShieldsProtocol} (htracked : tracked → Tracked s) :
    Does restrictive mayFail tracked s0 (fun s' _ => Loosens s s')
      (unlockAgentConfig target rollback allow cached) s := by
  refine (idle resolveHermesShieldsProtocol_calls hinv).bind (fun s1 protocol hinv1 h1 => ?_)
    fun s1 e _ h1 => ?_
  · obtain ⟨transitions, rfl⟩ := h1
    refine ⟨hinv1, fun s2 answer hcan => ?_⟩
    have hloosens : Loosens s s2 := by
      cases answer with
      | ok _ => exact ⟨transitions, false, hcan⟩
      | error e => exact ⟨transitions, s.configLocked, hcan⟩
    exact ⟨hinv.loosens htracked hloosens, hloosens⟩
  · obtain ⟨transitions, rfl⟩ := h1; exact ⟨transitions, s.configLocked, rfl⟩

theorem unlockConfig_does (htracked : tracked → Tracked s) :
    Does restrictive mayFail tracked s0 (fun s' _ => Loosens s s') d.unlockConfig s := by
  refine (unlockAgentConfig_does hinv htracked).bind (fun s1 _ hinv1 h1 => ?_) fun _ _ _ h => h
  refine .ite (fun _ => ?_) fun _ => ⟨hinv1, h1⟩
  have hcalls : (Descent.waitForConvergence.bind fun convergence =>
      Tree.lift (Descent.checkConvergence convergence)).Calls Call.Passive :=
    .bind (.ask trivial) fun _ => .done
  refine (idle hcalls hinv1).mono fun s2 _ _ h2 => ?_
  obtain ⟨_, configLocked, rfl⟩ := h1
  obtain ⟨transitions, rfl⟩ := h2; exact ⟨transitions, configLocked, rfl⟩

end

variable (restrictive tracked d) in
/-- What the command has made sure of before it weakens anything. -/
structure Prepared (s : Host) : Prop where
  snapshot : Restrictive restrictive s d.snapshotPath
  /-- a sandbox that is tracked was locked -/
  mode : tracked → d.initialMode ≠ .mutableDefault
  /-- without tracking every policy will do -/
  free : ¬tracked → ∀ text, restrictive text
  timer : tracked → d.opts.skipTimer = false

lemma Prepared.keeps (h : Prepared restrictive tracked d s)
    (hsnapshot : Restrictive restrictive s' d.snapshotPath) : Prepared restrictive tracked d s' :=
  ⟨hsnapshot, h.mode, h.free, h.timer⟩

lemma Prepared.hardens (h : Prepared restrictive tracked d s)
    (hs : Hardens restrictive s s') : Prepared restrictive tracked d s' :=
  h.keeps (h.snapshot.hardens hs)

lemma restoreShieldsStateSnapshot_does (hd : Prepared restrictive tracked d s)
    (hfresh : ¬tracked) (hmode : d.initialMode = .mutableDefault)
    (hinv : Invariant restrictive tracked s0 s) :
    Does restrictive mayFail tracked s0 (Unrejected s)
      (restoreShieldsStateSnapshot d.initial) s := by
  have hfirm : Firm restrictive tracked s := fun ht => absurd ht hfresh
  have hnew : Invariant restrictive tracked s0 { s with stateFile := d.initial } := by
    refine hinv.record hfirm (fun ht => absurd ht hfresh) (fun _ _ _ _ => hd.free hfresh _)
      fun _ hlocked => ?_
    rw [show d.initial.mode = .mutableDefault from hmode] at hlocked; cases hlocked
  cases hinitial : d.initial with
  | absent =>
    rw [hinitial] at hnew
    refine ⟨hinv, fun s1 answer hcan => ?_⟩
    cases answer with
    | ok _ =>
      obtain rfl : s1 = { s with stateFile := .absent } := hcan
      exact ⟨hnew, rfl⟩
    | error e =>
      obtain rfl : s1 = { s with writeFailed := true } := hcan
      exact ⟨.failed (s := s) hinv, rfl⟩
  | corrupt => exact ⟨hinv, rfl⟩
  | present state =>
    rw [hinitial] at hnew
    refine (writeStateFile_does hinv hnew (hinv.corrupt hfirm)).mono fun s1 r _ h => ?_
    cases r with
    | ok _ => obtain ⟨file, -, rfl⟩ := h; rfl
    | error e => obtain ⟨file, -, rfl⟩ := h; rfl

lemma restoreMutableDefault_does (hd : Prepared restrictive tracked d s) (hfresh : ¬tracked)
    (hmode : d.initialMode = .mutableDefault) (hinv : Invariant restrictive tracked s0 s) :
    Does restrictive mayFail tracked s0 (Unrejected s) d.restoreMutableDefault s := by
  refine (unlockAgentConfig_does hinv fun ht => absurd ht hfresh).bind
    (fun s1 _ hinv1 h1 => ?_) fun s1 e _ h1 => ?_
  · obtain ⟨_, _, rfl⟩ := h1
    refine (quiet killTimer_calls hinv1 fun ht => absurd ht hfresh).bind
      (fun s2 cancellation hinv2 h2 => ?_) fun s2 e _ h2 => h2.relaxRejected
    refine Does.since h2.relaxRejected (.ite (fun _ => ⟨hinv2, rfl⟩) fun _ => ?_)
    exact restoreShieldsStateSnapshot_does (hd.keeps fun _ _ => hd.free hfresh _) hfresh hmode
      hinv2
  · obtain ⟨_, _, rfl⟩ := h1; rfl

lemma restoreLockdown_does (hinv : Invariant restrictive tracked s0 s)
    (hpolicy : restrictive s.policy) :
    Does restrictive mayFail tracked s0 (Unrejected s) d.restoreLockdown s := by
  refine (relock_does hinv).bind (fun s1 relocked hinv1 h1 => ?_)
    fun s1 e _ h1 => Hardens.relaxRejected h1
  refine Does.since h1.1.relaxRejected ?_
  cases relocked with
  | error e => exact ⟨hinv1, rfl⟩
  | ok result =>
  have hlocked := h1.2 result rfl
  have hfirm : Firm restrictive tracked s1 := fun ht =>
    ⟨⟨h1.1.restrictive_policy hpolicy, hlocked.configLocked⟩, hinv1.recorded ht⟩
  exact Does.recordUp hfirm
    (saveUp_does .upPatch hinv1 hfirm fun _ => .inl hlocked.lockConfirmed) .done

lemma rollbackConfig_does (hd : Prepared restrictive tracked d s)
    (hinv : Invariant restrictive tracked s0 s) (hpolicy : restrictive s.policy) :
    Does restrictive mayFail tracked s0 (Unrejected s) d.rollbackConfig s := by
  refine .ite (fun hmutable => ?_) fun _ => restoreLockdown_does hinv hpolicy
  have hfresh : ¬tracked := fun ht => hd.mode ht hmutable.1
  refine (restoreMutableDefault_does hd hfresh hmutable.1 hinv).attempt_bind
    fun s1 restored hinv1 h1 => Does.since h1 ?_
  cases restored with
  | ok _ => exact ⟨hinv1, rfl⟩
  | error e => exact restoreLockdown_does hinv1 (hd.free hfresh _)

theorem rollbackShieldsDown_does (hd : Prepared restrictive tracked d s)
    (hinv : Invariant restrictive tracked s0 s) :
    Does restrictive mayFail tracked s0 (Unrejected s) d.rollbackShieldsDown s := by
  refine (applyShieldsPolicySnapshot_does hinv hd.snapshot).attempt_bind
    fun s1 result hinv1 h1 => ?_
  refine Does.since h1.hardens.relaxRejected ?_
  split
  · exact rollbackConfig_does (hd.hardens h1.hardens) hinv1 (h1.2 rfl)
  · exact ⟨hinv1, rfl⟩

/-- A rollback, and what comes after it before the error is thrown again. -/
lemma rollbackThen_does {rest : Program Unit} {e : Failure}
    (hrest : rest.Calls Call.Passive) (hd : Prepared restrictive tracked d s)
    (hinv : Invariant restrictive tracked s0 s) :
    Does restrictive mayFail tracked s0 (Unrejected s)
      (d.rollbackShieldsDown.bind fun _ => rest.bind fun _ => (throw e : Program Unit)) s := by
  refine (rollbackShieldsDown_does hd hinv).bind (fun s1 _ hinv1 h1 => ?_) fun s1 e _ h1 => h1
  exact Does.since h1 (Does.passive hrest hinv1 fun s2 _ _ hinv2 => ⟨hinv2, rfl⟩)

lemma activate_does (hd : Prepared restrictive tracked d s)
    (hinv : Invariant restrictive tracked s0 s) :
    Does restrictive mayFail tracked s0 (Unrejected s) (d.activate transition) s := by
  have haudit : ∀ s, Invariant restrictive tracked s0 s →
      Does restrictive mayFail tracked s0 (Unrejected s) appendAuditEntry s := by
    intro s hinv
    exact (idle appendAuditEntry_calls hinv).mono fun _ _ _ h => h.still.relaxRejected
  cases transition with
  | none => exact haudit s hinv
  | some transition =>
  refine (idle writeShieldsDownTransition_calls hinv).attempt_bind
    fun s1 activated hinv1 h1 => Does.since h1.still.relaxRejected ?_
  cases activated with
  | ok _ => exact haudit s1 hinv1
  | error e =>
    have hclear : (clearShieldsDownTransition transition.processToken).Calls Call.Passive :=
      .ask trivial
    exact rollbackThen_does hclear (hd.hardens h1.hardens) hinv1

lemma unlock_does (hd : Prepared restrictive tracked d s) (htracked : tracked → Tracked s)
    (hinv : Invariant restrictive tracked s0 s) :
    Does restrictive mayFail tracked s0 (Unrejected s) (d.unlock transition) s := by
  refine (unlockConfig_does hinv htracked).attempt_bind fun s1 unlocked hinv1 h1 => ?_
  obtain ⟨transitions, configLocked, rfl⟩ := h1
  have hd1 : Prepared restrictive tracked d { s with transitions, configLocked } :=
    hd.keeps hd.snapshot
  cases unlocked with
  | ok _ => exact activate_does hd1 hinv1
  | error e => exact rollbackThen_does clearTransition_calls hd1 hinv1

/-- If a relaxed policy was rejected then the record says locked, or could not be written. -/
def Rejection (s s' : Host) (_ : Except Failure Unit) : Prop :=
  s'.relaxRejected →
    s'.writeFailed ∨ s'.stateFile.mode = .locked ∧ s'.lockConfirmed = s.lockConfirmed

lemma Rejection.of_unrejected {r : Except Failure Unit} (hs : s.relaxRejected = false)
    (h : Unrejected s s' r) : Rejection s s' r := by
  intro hrejected
  rw [show s'.relaxRejected = s.relaxRejected from h, hs] at hrejected; cases hrejected

lemma Rejection.since {t : Program Unit} (h : s'.lockConfirmed = s.lockConfirmed)
    (hdoes : Does restrictive mayFail tracked s0 (Rejection s') t s') :
    Does restrictive mayFail tracked s0 (Rejection s) t s' :=
  hdoes.mono fun _ _ _ hr hrejected => (hr hrejected).imp_right fun hl => ⟨hl.1, hl.2.trans h⟩

lemma markRejected_calls : (Descent.markRejected transition).Calls Call.Passive := by
  cases transition with
  | none => exact .done
  | some transition => exact .bind writeShieldsDownTransition_calls.attempt fun _ => .done

/-- The record is set back to shields that are up, whatever it was before. -/
theorem rejected_does (hrejected : s.relaxRejected)
    (hfirm : Firm restrictive tracked s) (hinv : Invariant restrictive tracked s0 s) :
    Does restrictive mayFail tracked s0 (Rejection s) (d.rejected transition) s := by
  have hraises : Raises restrictive s Descent.rejectedPatch := ⟨rfl, nofun⟩
  refine (saveUp_does hraises hinv hfirm fun h => ?_).attempt_bind
    fun s1 cleared hinv1 h1 => ?_
  · rw [hrejected] at h; cases h
  cases cleared with
  | error e =>
    obtain ⟨file, -, rfl⟩ := h1
    refine (idle markRejected_calls hinv1).bind (fun s2 _ hinv2 h2 => ⟨hinv2, fun _ => ?_⟩)
      fun s2 e _ h2 _ => ?_
    · exact .inl h2.still.writeFailed
    · exact .inl h2.still.writeFailed
  | ok _ =>
    have hfirm1 := (h1.firm hfirm).1
    obtain ⟨state, hdown, rfl⟩ := h1
    have hlocked : ∀ s2 : Host, Still { s with stateFile := .present state } s2 →
        s2.stateFile.mode = .locked ∧ s2.lockConfirmed = s.lockConfirmed := fun s2 h2 =>
      ⟨StateFile.mode_locked_iff.mpr ⟨state, h2.stateFile, hdown⟩, h2.lockConfirmed⟩
    have hcalls : ((clearTransition transition).bind fun _ =>
        killTimer.bind fun _ => (throw d.couldNotApply : Program Unit)).Calls Call.Quiet :=
      .bind (Calls.quiet clearTransition_calls) fun _ => .bind killTimer_calls fun _ => .done
    exact (quiet hcalls hinv1 hfirm1).mono fun s2 _ _ h2 _ => .inr (hlocked s2 h2.toStill)

/-- The record that goes before the weakening, and the timer that goes with it. -/
structure Committed (tracked : Prop) (d : Descent) (s : Host) : Prop where
  down : RecordedDown s.stateFile d.snapshotPath
  marker : tracked → ∃ marker, s.marker = some marker ∧ marker.snapshotPath = d.snapshotPath

lemma Committed.isTracked (h : Committed tracked d s) (ht : tracked) : Tracked s := by
  obtain ⟨marker, hmarker, hpath⟩ := h.marker ht
  exact ⟨marker, hmarker, hpath ▸ h.down⟩

lemma applyRelaxed_does (hs : s.relaxRejected = false) (hd : Prepared restrictive tracked d s)
    (hfirm : Firm restrictive tracked s) (hcommitted : Committed tracked d s)
    (hinv : Invariant restrictive tracked s0 s) :
    Does restrictive mayFail tracked s0 (Rejection s) (d.applyRelaxed transition) s := by
  refine ⟨hinv, fun s1 (status : Option ℤ) hcan => ?_⟩
  have hs1 : s1 = if status = some 0 then { s with policy := d.policy }
    else { s with relaxRejected := s.relaxRejected || decide (Purpose.relax = .relax) } := hcan
  show Does restrictive mayFail tracked s0 (Rejection s)
    (if status ≠ some 0 then d.rejected transition else d.unlock transition) s1
  by_cases hstatus : status = some 0
  · rw [if_pos hstatus] at hs1
    rw [if_neg (not_not.mpr hstatus)]
    subst hs1
    have hinv1 : Invariant restrictive tracked s0 { s with policy := d.policy } :=
      ⟨hinv.sound, fun ht => .inr (hcommitted.isTracked ht), hinv.real⟩
    have hd1 : Prepared restrictive tracked d { s with policy := d.policy } := hd.keeps hd.snapshot
    have htracked1 : tracked → Tracked { s with policy := d.policy } := hcommitted.isTracked
    exact (unlock_does hd1 htracked1 hinv1).mono fun _ _ _ h => Rejection.of_unrejected hs h
  · rw [if_neg hstatus] at hs1
    have hrejected : s1.relaxRejected := by simp [hs1]
    have hfirm1 : Firm restrictive tracked s1 := by
      subst hs1
      exact fun ht => ⟨⟨(hfirm ht).1.policy, (hfirm ht).1.configLocked⟩, (hfirm ht).2⟩
    have hinv1 : Invariant restrictive tracked s0 s1 := by
      refine ⟨?_, fun ht => .inl (hfirm1 ht), fun h => ?_⟩
      · subst hs1; exact hinv.sound
      · rw [hrejected] at h; cases h
    have hlock : s1.lockConfirmed = s.lockConfirmed := by rw [hs1]
    rw [if_pos hstatus]; exact Rejection.since hlock (rejected_does hrejected hfirm1 hinv1)

lemma withdraw_calls : (Descent.withdraw transition).Calls Call.Quiet := by
  cases transition with
  | none => exact .done
  | some transition => exact .bind (.ask trivial) fun _ => .bind killTimer_calls fun _ => .done

lemma Updated.down {at' : String} {file : StateFile}
    (h : Updated mayFail s (.save (d.downPatch at')) (d.downPatch at') file) :
    RecordedDown file d.snapshotPath := by
  obtain ⟨current, updatedAt, -, rfl⟩ := h; exact ⟨_, rfl, rfl, rfl⟩

lemma RecordedDown.recorded {file : StateFile} {path : String} (h : RecordedDown file path) :
    Recorded file := by
  obtain ⟨state, rfl, hdown, -⟩ := h; exact .of_present (by simp [hdown])

/-- The record is written before anything is weakened. -/
theorem weaken_does {at' : String} (hs : s.relaxRejected = false)
    (hd : Prepared restrictive tracked d s) (hfirm : Firm restrictive tracked s)
    (hmarker : tracked → ∃ marker, s.marker = some marker ∧
      marker.snapshotPath = d.snapshotPath)
    (hinv : Invariant restrictive tracked s0 s) :
    Does restrictive mayFail tracked s0 (Rejection s) (d.weaken at' transition) s := by
  have hfirm' : ∀ file failed, Recorded file →
      Firm restrictive tracked { s with stateFile := file, writeFailed := failed } :=
    fun file failed hrecorded ht =>
      ⟨⟨(hfirm ht).1.policy, (hfirm ht).1.configLocked⟩, hrecorded⟩
  have hnew : ∀ file, Updated mayFail s (.save (d.downPatch at')) (d.downPatch at') file →
      Invariant restrictive tracked s0 { s with stateFile := file } := by
    intro file hupdated
    obtain ⟨state, rfl, hdown, hpath⟩ := hupdated.down
    refine hinv.record hfirm (fun _ => .of_present (by simp [hdown])) (fun path heq => ?_)
      fun _ hlocked => ?_
    · have hsame : path = d.snapshotPath := Option.some.inj (heq.symm.trans hpath)
      exact hsame ▸ hd.snapshot
    · obtain ⟨_, heq, hfalse⟩ := StateFile.mode_locked_iff.mp hlocked
      cases heq
      rw [hdown] at hfalse; cases hfalse
  refine (saveShieldsState_does hinv hnew (hinv.corrupt hfirm)).attempt_bind
    fun s1 saved hinv1 h1 => ?_
  cases saved with
  | ok _ =>
    obtain ⟨file, hupdated, rfl⟩ := h1
    exact applyRelaxed_does hs (hd.keeps hd.snapshot)
      (hfirm' file s.writeFailed hupdated.down.recorded) ⟨hupdated.down, hmarker⟩ hinv1
  | error e =>
    obtain ⟨file, hfile, rfl⟩ := h1
    have hfirm1 : Firm restrictive tracked { s with stateFile := file, writeFailed := true } := by
      obtain rfl | rfl | hupdated := hfile
      · exact fun ht => hfirm' _ true (hfirm ht).2 ht
      · exact hfirm' _ true .corrupt
      · exact hfirm' _ true hupdated.down.recorded
    have hcalls : ((Descent.withdraw transition).bind fun _ =>
        (throw e : Program Unit)).Calls Call.Quiet := .bind withdraw_calls fun _ => .done
    exact (Does.quiet hcalls hinv1 hfirm1).mono fun _ _ _ h => Rejection.of_unrejected hs h

/-! ## The timer -/

/-- The marker may be another one; snapshots stay. -/
structure Arms (s s' : Host) : Prop extends Still s s' where
  snapshots : s'.snapshots = s.snapshots

/-- There is a timer for the snapshot. -/
def Armed (d : Descent) (s : Host) : Prop :=
  ∃ marker, s.marker = some marker ∧ marker.snapshotPath = d.snapshotPath

lemma Arms.refl : Arms s s := ⟨.refl, rfl⟩

lemma Arms.trans {s'' : Host} (h : Arms s s') (h' : Arms s' s'') : Arms s s'' :=
  ⟨h.toStill.trans h'.toStill, h'.snapshots.trans h.snapshots⟩

lemma Idle.arms (h : Idle s s') : Arms s s' := by
  obtain ⟨_, rfl⟩ := h; exact ⟨⟨rfl, rfl, rfl, rfl, rfl, rfl⟩, rfl⟩

lemma Idle.armed (h : Idle s s') (hs : Armed d s) : Armed d s' := by
  obtain ⟨_, rfl⟩ := h; exact hs

lemma Arms.restrictive_snapshot {path : String} (h : Arms s s')
    (hpath : Restrictive restrictive s path) : Restrictive restrictive s' path := by
  intro text htext
  rw [h.snapshots] at htext; exact hpath text htext

/-- A timer of the descent was started, or something failed. -/
abbrev Arming (d : Descent) (s : Host) : Host → Except Failure Unit → Prop :=
  Split (fun s' _ => Arms s s' ∧ Armed d s') fun s' _ => Arms s s'

lemma Arming.after {r : Except Failure Unit} {s'' : Host} (h : Arms s s')
    (hr : Arming d s' s'' r) : Arming d s s'' r := by
  cases r with
  | ok _ => exact ⟨h.trans hr.1, hr.2⟩
  | error e => exact h.trans hr

lemma writeTimerMarkerAtomic_does {marker : TimerMarker}
    (hpath : marker.snapshotPath = d.snapshotPath)
    (hsnapshot : Restrictive restrictive s d.snapshotPath)
    (hfirm : Firm restrictive tracked s) (hinv : Invariant restrictive tracked s0 s) :
    Does restrictive mayFail tracked s0 (Arming d s) (writeTimerMarkerAtomic marker) s := by
  have harms : Arms s { s with marker := some marker } := ⟨⟨rfl, rfl, rfl, rfl, rfl, rfl⟩, rfl⟩
  have hnew : Invariant restrictive tracked s0 { s with marker := some marker } := by
    refine hinv.still hfirm harms.toStill fun path hnames => ?_
    cases hnames with
    | inl hfile => exact hinv.sound path (.inl hfile)
    | inr hmarker =>
    obtain ⟨_, hsome, hsame⟩ := hmarker
    cases hsome
    rw [← hsame, hpath]; exact hsnapshot
  refine ⟨hinv, fun s1 answer hcan => ?_⟩
  cases answer with
  | ok _ =>
    obtain rfl : s1 = { s with marker := some marker } := hcan
    exact ⟨hnew, harms, marker, rfl, hpath⟩
  | error e =>
    have hcan : s1 = s ∨ s1 = { s with marker := some marker } := hcan
    obtain rfl | rfl := hcan
    · exact ⟨hinv, Arms.refl⟩
    · exact ⟨hnew, harms⟩

lemma publishTimer_does {args : TimerArgs} {timerPid : ℕ}
    (hpath : args.snapshotPath = d.snapshotPath)
    (hsnapshot : Restrictive restrictive s d.snapshotPath)
    (hfirm : Firm restrictive tracked s) (hinv : Invariant restrictive tracked s0 s) :
    Does restrictive mayFail tracked s0 (Arming d s) (d.publishTimer args timerPid) s := by
  have hauthorize : (Descent.authorizeTimer timerPid d.opts.processToken).Calls Call.Passive :=
    .bind (.ask trivial) fun _ => .done
  refine (writeTimerMarkerAtomic_does hpath hsnapshot hfirm hinv).bind
    (fun s1 _ hinv1 h1 => ?_) fun _ _ _ h => h
  refine (idle hauthorize hinv1).bind (fun s2 authorized hinv2 h2 => ?_)
    fun s2 e _ h2 => h1.1.trans h2.arms
  refine .ite (fun _ => ⟨hinv2, h1.1.trans h2.arms⟩) fun _ => ?_
  exact ⟨hinv2, h1.1.trans h2.arms, h2.armed h1.2⟩

lemma Arming.passive {α : Type} {t : Program α} {f : α → Program Unit}
    (ht : t.Calls Call.Passive) (hinv : Invariant restrictive tracked s0 s)
    (hf : ∀ s' a, Idle s s' → Invariant restrictive tracked s0 s' →
      Does restrictive mayFail tracked s0 (Arming d s') (f a) s') :
    Does restrictive mayFail tracked s0 (Arming d s) (t.bind f) s := by
  refine (idle ht hinv).bind (fun s1 a hinv1 h1 => ?_) fun s1 e _ h1 => h1.arms
  exact (hf s1 a h1 hinv1).mono fun _ _ _ h => h.after h1.arms

lemma launchTimer_does {restoreAt : Date} {transition : ShieldsDownTransition}
    (hsnapshot : Restrictive restrictive s d.snapshotPath)
    (hfirm : Firm restrictive tracked s) (hinv : Invariant restrictive tracked s0 s) :
    Does restrictive mayFail tracked s0 (Arming d s) (d.launchTimer restoreAt transition) s := by
  have hfork : (Descent.forkTimer (d.timerArgs restoreAt transition)).Calls Call.Passive :=
    .bind (.ask trivial) fun _ => .done
  refine Arming.passive writeShieldsDownTransition_calls hinv fun s1 _ h1 hinv1 => ?_
  refine Arming.passive hfork hinv1 fun s2 timerPid h2 hinv2 => ?_
  cases timerPid with
  | none => exact ⟨hinv2, Arms.refl⟩
  | some timerPid =>
    have hidle := h1.trans h2
    exact publishTimer_does rfl (hidle.arms.restrictive_snapshot hsnapshot)
      (hfirm.still hidle.still) hinv2

/-- What is known when the timer is started, or is not to be. -/
abbrev Started (d : Descent) (s : Host) :
    Host → Except Failure (Option ShieldsDownTransition) → Prop :=
  Split (fun s' _ => Arms s s' ∧ (d.opts.skipTimer = false → Armed d s')) fun s' _ => Still s s'

lemma launchOrClear_does {restoreAt : Date} {transition : ShieldsDownTransition}
    (hsnapshot : Restrictive restrictive s d.snapshotPath)
    (hfirm : Firm restrictive tracked s) (hinv : Invariant restrictive tracked s0 s) :
    Does restrictive mayFail tracked s0
      (Split (fun s' _ => Arms s s' ∧ Armed d s') fun s' _ => Still s s')
      (d.launchOrClear restoreAt transition) s := by
  refine (launchTimer_does hsnapshot hfirm hinv).attempt_bind fun s1 launched hinv1 h1 => ?_
  cases launched with
  | ok _ => exact ⟨hinv1, h1⟩
  | error e =>
  have harms : Arms s s1 := h1
  refine (quiet clearTimerMarker_calls hinv1 (hfirm.still harms.toStill)).bind
    (fun s2 _ hinv2 h2 => ?_) fun s2 e _ h2 => harms.toStill.trans h2.toStill
  have hcalls : (clearShieldsDownTransition transition.processToken).Calls Call.Passive :=
    .ask trivial
  have hstill := harms.toStill.trans h2.toStill
  refine (idle hcalls hinv2).bind (fun s3 _ hinv3 h3 => ?_) fun s3 e _ h3 => ?_
  · exact ⟨hinv3, hstill.trans h3.still⟩
  · exact hstill.trans h3.still

theorem startTimer_does (hsnapshot : Restrictive restrictive s d.snapshotPath)
    (hfirm : Firm restrictive tracked s) (hinv : Invariant restrictive tracked s0 s) :
    Does restrictive mayFail tracked s0 (Started d s) d.startTimer s := by
  refine .ite (fun hskip => ⟨hinv, .refl, fun h => ?_⟩) fun _ => ?_
  · rw [hskip] at h; cases h
  have hdate : (dateIn d.timeoutSeconds).Calls Call.Passive := .ask trivial
  refine (idle hdate hinv).bind (fun s1 restoreAt hinv1 h1 => ?_) fun s1 e _ h1 => h1.still
  refine .ite (fun _ => ⟨hinv1, h1.still⟩) fun _ => ?_
  have hread : d.readOwnStartIdentity.Calls Call.Passive := .ask trivial
  refine (idle hread hinv1).bind (fun s2 identity hinv2 h2 => ?_)
    fun s2 e _ h2 => h1.still.trans h2.still
  have hidle := h1.trans h2
  cases identity with
  | none => exact ⟨hinv2, hidle.still⟩
  | some identity =>
  refine (launchOrClear_does (hidle.arms.restrictive_snapshot hsnapshot)
    (hfirm.still hidle.still) hinv2).bind (fun s3 _ hinv3 h3 => ?_)
    fun s3 e _ h3 => hidle.still.trans h3
  exact ⟨hinv3, hidle.arms.trans h3.1, fun _ => h3.2⟩

lemma commit_does (hs : s.relaxRejected = false) (hd : Prepared restrictive tracked d s)
    (hfirm : Firm restrictive tracked s) (hinv : Invariant restrictive tracked s0 s) :
    Does restrictive mayFail tracked s0 (Rejection s) d.commit s := by
  have hnow : now.Calls Call.Passive := .ask trivial
  refine (idle hnow hinv).bind (fun s1 at' hinv1 h1 => ?_)
    fun s1 e _ h1 => .of_unrejected hs h1.still.relaxRejected
  have hd1 := hd.keeps (h1.arms.restrictive_snapshot hd.snapshot)
  have hfirm1 := hfirm.still h1.still
  refine (startTimer_does hd1.snapshot hfirm1 hinv1).bind (fun s2 transition hinv2 h2 => ?_)
    fun s2 e _ h2 => .of_unrejected hs (h1.still.trans h2).relaxRejected
  obtain ⟨harms, harmed⟩ := h2
  have hstill := h1.still.trans harms.toStill
  refine Rejection.since hstill.lockConfirmed ?_
  exact weaken_does (hstill.relaxRejected.trans hs)
    (hd1.keeps (harms.restrictive_snapshot hd1.snapshot)) (hfirm.still hstill)
    (fun ht => harmed (hd.timer ht)) hinv2

lemma capturePolicy_does (hinv : Invariant restrictive tracked s0 s) :
    Does restrictive mayFail tracked s0
      (Split (fun s' policyYaml => s' = s ∧ policyYaml = s.policy) fun s' _ => s' = s)
      capturePolicy s := by
  refine ⟨hinv, fun s1 (policyYaml : Option String) hcan => ?_⟩
  have hcan : s1 = s ∧ ∀ text, policyYaml = some text → text = s.policy := hcan
  obtain ⟨rfl, htext⟩ := hcan
  cases policyYaml with
  | none => exact ⟨hinv, rfl⟩
  | some policyYaml => exact ⟨hinv, rfl, htext policyYaml rfl⟩

lemma writeSnapshot_does {path policyYaml : String} (hpolicy : restrictive policyYaml)
    (hfirm : Firm restrictive tracked s) (hinv : Invariant restrictive tracked s0 s) :
    Does restrictive mayFail tracked s0
      (Split (fun s' _ => Still s s' ∧ Restrictive restrictive s' path) fun s' _ => Still s s')
      (writeSnapshot path policyYaml) s := by
  refine ⟨hinv, fun s1 answer hcan => ?_⟩
  obtain ⟨hnew, hcan⟩ := hcan
  have hinv1 : ∀ content, Invariant restrictive tracked s0
      { s with snapshots := Function.update s.snapshots path content } := by
    intro content
    refine hinv.still hfirm ⟨rfl, rfl, rfl, rfl, rfl, rfl⟩ fun other hnames text htext => ?_
    -- what is named is another path, so its snapshot is the old one
    have hne : other ≠ path := fun heq => hnew (heq ▸ hnames)
    exact hinv.sound other hnames text (by simpa [hne] using htext)
  cases answer with
  | ok _ =>
    obtain rfl : s1 = { s with
      snapshots := Function.update s.snapshots path (some policyYaml) } := hcan
    refine ⟨hinv1 _, ⟨rfl, rfl, rfl, rfl, rfl, rfl⟩, fun text htext => ?_⟩
    have heq : policyYaml = text := by simpa using htext
    exact heq ▸ hpolicy
  | error e => obtain ⟨torn, rfl⟩ := hcan; exact ⟨hinv1 torn, rfl, rfl, rfl, rfl, rfl, rfl⟩

lemma removeSnapshot_calls {path : String} : (removeSnapshot path).Calls Call.Quiet :=
  .bind (.ask trivial) fun _ => .done

lemma relaxedPolicy_calls {path policyName policyYaml : String}
    {policies : List ManagedMcpPolicy} :
    (relaxedPolicy path policyName policyYaml policies).Calls Call.Quiet := by
  refine .ite (fun _ => .bind (.ask trivial) fun _ => .done) fun _ => ?_
  refine .bind (.ask trivial) fun found => .ite (fun _ => ?_) fun _ => ?_
  · exact .bind removeSnapshot_calls fun _ => .done
  · exact .bind (.ask trivial) fun _ => .done

lemma relaxedPolicyOrDiscard_calls {path policyName policyYaml : String}
    {policies : List ManagedMcpPolicy} :
    (relaxedPolicyOrDiscard path policyName policyYaml policies).Calls Call.Quiet := by
  refine .bind relaxedPolicy_calls.attempt fun composed => ?_
  cases composed with
  | ok policy => exact .done
  | error e => exact .bind removeSnapshot_calls fun _ => .done

lemma resolveLabelled_calls {label : String} {policyYaml : Option String} :
    (labelled label (resolveExactManagedMcpPolicies policyYaml)).Calls Call.Passive :=
  .handle (.bind (.ask trivial) fun _ => .done) fun _ => .done

theorem prepareDescent_does {pid : ℕ} {opts : ShieldsDownOpts} {file : StateFile}
    {target : AgentConfigTarget} {protocol : HermesShieldsProtocol}
    (hpolicy : restrictive s.policy) (hfirm : Firm restrictive tracked s)
    (hinv : Invariant restrictive tracked s0 s) :
    Does restrictive mayFail tracked s0
      (Split (fun s' d => Still s s' ∧ Restrictive restrictive s' d.snapshotPath ∧
          d.initial = file ∧ d.opts = opts) fun s' _ => Still s s')
      (prepareDescent pid opts file target protocol) s := by
  refine .lift hinv (fun timeoutSeconds _ => ?_) fun _ _ => Still.refl
  refine (capturePolicy_does hinv).bind (fun s1 policyYaml hinv1 h1 => ?_) fun s1 e _ h1 => ?_
  · obtain ⟨rfl, rfl⟩ := h1
    refine (idle resolveLabelled_calls hinv1).bind (fun s2 policies hinv2 h2 => ?_)
      fun s2 e _ h2 => h2.still
    have hnow : now.Calls Call.Passive := .ask trivial
    refine (idle hnow hinv2).bind (fun s3 time hinv3 h3 => ?_)
      fun s3 e _ h3 => h2.still.trans h3.still
    have hstill3 := h2.still.trans h3.still
    refine (writeSnapshot_does hpolicy (hfirm.still hstill3) hinv3).bind
      (fun s4 _ hinv4 h4 => ?_) fun s4 e _ h4 => hstill3.trans h4
    have hstill4 := hstill3.trans h4.1
    refine (quiet relaxedPolicyOrDiscard_calls hinv4 (hfirm.still hstill4)).bind
      (fun s5 policy hinv5 h5 => ?_) fun s5 e _ h5 => hstill4.trans h5.toStill
    exact ⟨hinv5, hstill4.trans h5.toStill, h5.keeps h4.2, rfl, rfl⟩
  · obtain rfl : s1 = s := h1; exact Still.refl

lemma checkNotDown_ok {file : StateFile} {u : Unit} (h : checkNotDown file = .ok u) :
    file ≠ .corrupt ∧ file.state.shieldsDown ≠ some true := by
  unfold checkNotDown at h
  split at h
  · cases h
  next hcorrupt =>
  split at h
  · cases h
  next hdown =>
  refine ⟨fun heq => ?_, hdown⟩
  rw [heq] at hcorrupt; exact hcorrupt rfl

lemma mode_ne_temporarilyUnlocked {file : StateFile}
    (hdown : file.state.shieldsDown ≠ some true) : file.mode ≠ .temporarilyUnlocked := by
  intro hmode
  cases file with
  | absent => cases hmode
  | corrupt => cases hmode
  | present state =>
  have hne : state.shieldsDown ≠ some true := hdown
  have hmode : deriveShieldsMode state true = .temporarilyUnlocked := hmode
  unfold deriveShieldsMode at hmode
  split at hmode
  · cases hmode
  split at hmode
  · next h => exact hne h
  · cases hmode
  · cases hmode

lemma Invariant.firm_of_not_down (hinv : Invariant restrictive tracked s0 s)
    (hdown : s.stateFile.state.shieldsDown ≠ some true) : Firm restrictive tracked s := by
  intro ht
  cases hinv.window ht with
  | inl hfirm => exact hfirm
  | inr htracked =>
    obtain ⟨marker, -, state, heq, htrue, -⟩ := htracked
    rw [heq] at hdown; exact absurd htrue hdown

lemma Recorded.mode_ne {file : StateFile} (h : Recorded file) (hcorrupt : file ≠ .corrupt)
    (hdown : file.state.shieldsDown ≠ some true) : file.mode ≠ .mutableDefault := by
  intro hmode
  cases hfalse : decide (file.state.shieldsDown = some false) with
  | false => exact hdown (h.down hcorrupt (of_decide_eq_false hfalse))
  | true =>
  cases file with
  | absent => exact h.present rfl
  | corrupt => exact hcorrupt rfl
  | present state =>
    have hlocked := StateFile.mode_locked_iff.mpr ⟨state, rfl, of_decide_eq_true hfalse⟩
    rw [hmode] at hlocked; cases hlocked

theorem shieldsDownWithoutHostLock_does {pid : ℕ} {opts : ShieldsDownOpts}
    (hs : s.relaxRejected = false) (hskip : tracked → opts.skipTimer = false)
    (hfree : ¬tracked → ∀ text, restrictive text)
    (hinv : Invariant restrictive tracked s0 s) :
    Does restrictive mayFail tracked s0
      (fun s' r => Rejection s s' r ∧
        (s'.relaxRejected → s.stateFile.mode ≠ .temporarilyUnlocked))
      (shieldsDownWithoutHostLock pid opts) s := by
  have hkeep : ∀ s1 : Host, ∀ r : Except Failure Unit, s1.relaxRejected = s.relaxRejected →
      Rejection s s1 r ∧
        (s1.relaxRejected → s.stateFile.mode ≠ .temporarilyUnlocked) := by
    intro s1 r heq
    refine ⟨.of_unrejected hs heq, fun h => ?_⟩
    rw [heq, hs] at h; cases h
  refine (loadShieldsState_does hinv).bind (fun s1 file hinv1 h1 => ?_) fun _ _ _ h1 => h1.elim
  obtain ⟨rfl, hread⟩ := h1
  refine .lift hinv1 (fun _ hcheck => ?_) fun e _ => hkeep s1 _ rfl
  obtain ⟨hcorrupt, hdown⟩ := checkNotDown_ok hcheck
  have hfile : file = s1.stateFile := by
    cases hread with
    | inl heq => exact heq
    | inr hfailed => exact absurd hfailed.2.1 hcorrupt
  subst hfile
  have hfirm1 := hinv1.firm_of_not_down hdown
  refine (idle resolveTarget_calls hinv1).bind (fun s2 target hinv2 h2 => ?_)
    fun s2 e _ h2 => hkeep s2 _ h2.still.relaxRejected
  refine (idle requireHermesShieldsProtocol_calls hinv2).bind (fun s3 protocol hinv3 h3 => ?_)
    fun s3 e _ h3 => hkeep s3 _ (h2.still.trans h3.still).relaxRejected
  have hstill3 := h2.still.trans h3.still
  refine (quiet killTimer_calls hinv3 (hfirm1.still hstill3)).bind
    (fun s4 cancellation hinv4 h4 => ?_)
    fun s4 e _ h4 => hkeep s4 _ (hstill3.trans h4.toStill).relaxRejected
  have hstill4 := hstill3.trans h4.toStill
  refine .lift hinv4 (fun _ _ => ?_) fun e _ => hkeep s4 _ hstill4.relaxRejected
  have hfirm4 := hfirm1.still hstill4
  have hpolicy : restrictive s4.policy := by
    by_cases ht : tracked
    · exact (hfirm4 ht).1.policy
    · exact hfree ht _
  refine (prepareDescent_does hpolicy hfirm4 hinv4).bind (fun s5 d hinv5 h5 => ?_)
    fun s5 e _ h5 => hkeep s5 _ (hstill4.trans h5).relaxRejected
  obtain ⟨hstill, hsnapshot, hinitial, hopts⟩ := h5
  have hstill5 := hstill4.trans hstill
  have hd : Prepared restrictive tracked d s5 := by
    refine ⟨hsnapshot, fun ht => ?_, hfree, fun ht => hopts ▸ hskip ht⟩
    rw [show d.initialMode = s1.stateFile.mode from congrArg StateFile.mode hinitial]
    exact (hfirm1 ht).2.mode_ne hcorrupt hdown
  have hcommit : Does restrictive mayFail tracked s0 (Rejection s5) d.commit s5 :=
    commit_does (hstill5.relaxRejected.trans hs) hd (hfirm1.still hstill5) hinv5
  exact (Rejection.since hstill5.lockConfirmed hcommit).mono
    fun _ _ _ h => ⟨h, fun _ => mode_ne_temporarilyUnlocked hdown⟩

end Lowered

end NemoClaw.Shields
