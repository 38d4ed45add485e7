import NemoClaw.Shields.RestoreAttempt
import NemoClaw.Shields.ShieldsOperations

/- The timer does not give up silently.

All runs of the timer share one budget. What counts against it: an attempt to restore, a
set-up of the deadline fence that fails, and a run that fails before either. A run that
ends with the budget used up contains the sandbox, or reports the failure for which the
gates are kept.

What is provided:
  1. `Accounted`, `Kept`, `Fails` — what a failure says about the sandbox.
  2. One lemma for each part of a run, from the set-up of the fence to the attempts.
  3. `run_ends` — how a run ends; `begins_within` — where the next one begins.
  4. `runRestoreTimer_ends` — the budget and the ways out, over all runs.
-/
namespace NemoClaw.Shields

open Js CallTree

/-! ## Failures -/

/-- The failure says that the owned lifecycle gates stay. -/
def Failure.retains : Failure → Bool
  | plain _ => false
  | durable _ retain => retain

section Failures

variable (pid : ℕ) (args : TimerArgs)

/-- The timer has recorded the shields as up, or it does not own the recovery any more. -/
def Ended (s : TimerHost) : Prop := s.recordedUp ∨ Lost pid args s

/-- The authority is lost, or the sandbox is contained, or the failure says that the gates stay. -/
def Accounted (s : TimerHost) : Failure → Prop
  | .plain _ => Lost pid args s
  | .durable _ retain => retain ∨ s.contained

/-- A durable failure leaves the sandbox contained or the gates closed. -/
def Kept (s : TimerHost) (failure : Failure) : Prop :=
  failure.isDurable →
    s.contained ∨ failure.retains ∨ s.gatesHeld

/-- A failure of the recovery; where the containment is terminal, there is a reason for it. -/
structure Fails (s : TimerHost) (failure : Failure) : Prop where
  kept : Kept s failure
  terminal : s.terminalContainment → Lost pid args s ∨ s.contained ∨ failure.isDurable

def TimerArgs.RunEnd.Sound (options : TimerRuntimeOptions) (atEntry : ℕ) (s : TimerHost) :
    TimerArgs.RunEnd → Prop
  | exited _ reported => s.recordedUp ∨ Lost pid args s ∨ s.contained ∨
    ∃ failure, reported = some failure ∧ failure.isDurable ∧
      (failure.retains ∨ s.gatesHeld)
  | rescheduled .leaseOwnerAlive => s.leaseOwnerSeen ∧ s.attemptsUsed < options.attempts
  | rescheduled .failure => atEntry < s.attemptsUsed ∧ s.attemptsUsed < options.attempts

end Failures

lemma TimerRuntimeOptions.attempts_pos (options : TimerRuntimeOptions) :
    0 < options.attempts := by
  unfold TimerRuntimeOptions.attempts
  cases options.maxRestoreAttempts with
  | none => decide
  | some n =>
  dsimp only
  split
  · omega
  · decide

section Parts

variable {pid : ℕ} {args : TimerArgs} {options : TimerRuntimeOptions} {s s' s'' : TimerHost}
  {limit used : ℕ} {token : String} {α : Type}

/-- The gates stay as they are, and nothing goes back into the budget. -/
structure Ahead (s s' : TimerHost) : Prop where
  gatesHeld : s'.gatesHeld = s.gatesHeld
  terminalContainment : s'.terminalContainment = s.terminalContainment
  attemptsUsed : s.attemptsUsed ≤ s'.attemptsUsed

lemma Ahead.trans (h : Ahead s s') (h' : Ahead s' s'') : Ahead s s'' :=
  ⟨h'.gatesHeld.trans h.gatesHeld, h'.terminalContainment.trans h.terminalContainment,
    h.attemptsUsed.trans h'.attemptsUsed⟩

lemma Stays.ahead (h : Stays pid args s s') : Ahead s s' :=
  ⟨h.gatesHeld, h.terminalContainment, h.attemptsUsed.ge⟩

/-- What a part that fails leaves: if it made the containment terminal, it had a reason. -/
structure Leaves (pid : ℕ) (args : TimerArgs) (s s' : TimerHost) (failure : Failure) : Prop where
  gatesHeld : s'.gatesHeld = s.gatesHeld
  terminal : s'.terminalContainment →
    s.terminalContainment ∨ Lost pid args s' ∨ s'.contained ∨ failure.isDurable

lemma Ahead.leaves {failure : Failure} (h : Ahead s s') : Leaves pid args s s' failure :=
  ⟨h.gatesHeld, fun hset => .inl (h.terminalContainment ▸ hset)⟩

lemma Ahead.trans_leaves {failure : Failure} (h : Ahead s s')
    (h' : Leaves pid args s' s'' failure) : Leaves pid args s s'' failure where
  gatesHeld := h'.gatesHeld.trans h.gatesHeld
  terminal := fun hset => (h'.terminal hset).imp_left fun hbefore =>
    h.terminalContainment ▸ hbefore

abbrev TimerDoes (args : TimerArgs) (limit used : ℕ)
    (post : TimerHost → Except Failure α → Prop) (t : TimerProgram α) (s : TimerHost) : Prop :=
  Always (TimerCan args) (Within limit used) post t s

lemma embed_does {t : Program α} {post : TimerHost → Except Failure α → Prop}
    (h : ShieldsDoes args limit used post t s) : TimerDoes args limit used post (embed t) s :=
  h.interpret fun _ _ hinv hnext => .ask hinv fun s' x hcan => ⟨hnext s' x hcan, x, rfl, hcan⟩

lemma markerMatches_watches (hinv : Within limit used s) :
    TimerDoes args limit used
      (Split (fun s' current => Keeps pid args s s' ∧ (current = false → Lost pid args s'))
        fun _ _ => False)
      (args.markerMatches pid) s := embed_does (markerMatchesCurrentTimer_watches hinv)

structure Counts (pid : ℕ) (args : TimerArgs) (s s' : TimerHost) : Prop where
  attemptsUsed : s'.attemptsUsed = s.attemptsUsed + 1
  restoreAttempts : s'.restoreAttempts = s.restoreAttempts
  gatesHeld : s'.gatesHeld = s.gatesHeld
  terminalContainment : s'.terminalContainment = s.terminalContainment
  contained : s.contained → s'.contained
  lost : Lost pid args s → Lost pid args s'

lemma Counts.ahead (h : Counts pid args s s') : Ahead s s' :=
  ⟨h.gatesHeld, h.terminalContainment, by rw [h.attemptsUsed]; omega⟩

lemma Within.counts (h : Within limit used s) (hs : Counts pid args s s') :
    Within limit used s' := by
  obtain ⟨hle, hrestores, hlimit⟩ := h
  rw [← hs.restoreAttempts] at hrestores hlimit
  have hcount := hs.attemptsUsed; exact ⟨by omega, by omega, hlimit⟩

lemma useAttempt_counts (pid : ℕ) (hinv : Within limit used s) :
    TimerDoes args limit used
      (Split (fun s' attempt => Counts pid args s s' ∧ attempt = s'.attemptsUsed)
        fun _ _ => False)
      useAttempt s := by
  refine Always.ask hinv fun s' (attempt : ℕ) hcan => ?_
  obtain ⟨s1, hother, rfl, rfl⟩ := hcan
  have hkeeps : Keeps pid args s s1 := hother.keeps
  have hcounts : Counts pid args s { s1 with attemptsUsed := s1.attemptsUsed + 1 } :=
    ⟨congrArg (· + 1) hother.attemptsUsed, hother.restoreAttempts, hother.gatesHeld,
      hother.terminalContainment, hkeeps.contained, hkeeps.lost⟩
  exact ⟨hinv.counts hcounts, hcounts, rfl⟩

lemma readAttemptsUsed_reads (pid : ℕ) (hinv : Within limit used s) :
    TimerDoes args limit used
      (Split (fun s' attempts => Keeps pid args s s' ∧ attempts = s'.attemptsUsed)
        fun _ _ => False)
      readAttemptsUsed s := by
  refine Always.ask hinv fun s' (attempts : ℕ) hcan => ?_
  obtain ⟨s1, hother, rfl, rfl⟩ := hcan
  have hkeeps : Keeps pid args s s' := hother.keeps
  exact ⟨hinv.stays hkeeps.toStays, hkeeps, rfl⟩

lemma setTerminalContainment_sets (pid : ℕ) {terminal : Bool} (hinv : Within limit used s) :
    TimerDoes args limit used
      (Split (fun s' _ => ∃ s1, Keeps pid args s s1 ∧
        s' = { s1 with terminalContainment := terminal }) fun _ _ => False)
      (setTerminalContainment terminal) s := by
  refine ⟨hinv, fun s' _ hcan => ?_⟩
  obtain ⟨s1, hother, rfl⟩ := hcan
  have hkeeps : Keeps pid args s s1 := hother.keeps
  obtain ⟨hle, hrestores, hlimit⟩ := hinv.stays hkeeps.toStays
  exact ⟨⟨hle, hrestores, hlimit⟩, s1, hkeeps, rfl⟩

lemma readTerminalContainment_reads (pid : ℕ) (hinv : Within limit used s) :
    TimerDoes args limit used
      (Split (fun s' terminal => Keeps pid args s s' ∧ terminal = s'.terminalContainment)
        fun _ _ => False)
      readTerminalContainment s := by
  refine Always.ask hinv fun s' (terminal : Bool) hcan => ?_
  obtain ⟨s1, hother, rfl, rfl⟩ := hcan
  have hkeeps : Keeps pid args s s' := hother.keeps
  exact ⟨hinv.stays hkeeps.toStays, hkeeps, rfl⟩

lemma beginCommittedMcpLifecycleContainment_commits (pid : ℕ) {reason : String}
    (hinv : Within limit used s) :
    TimerDoes args limit used
      (Split (fun s' committed => Stays pid args s s' ∧
        (∀ u, committed = .ok u → s'.contained) ∧
        ∀ message, committed ≠ .error (.durable message false)) fun _ _ => False)
      (args.beginCommittedMcpLifecycleContainment reason) s := by
  unfold TimerArgs.beginCommittedMcpLifecycleContainment
  cases args.takeoverToken with
  | none => exact ⟨hinv, .refl, nofun, nofun⟩
  | some token =>
  refine Always.ask hinv fun s' (committed : Except Failure Unit) hcan => ?_
  obtain ⟨s1, hother, hdoes⟩ := hcan
  have hkeeps : Keeps pid args s s1 := hother.keeps
  cases committed with
  | ok _ =>
    have heq : s' = s1.contain := hdoes
    subst heq
    have hstays := (hkeeps.trans .contain).toStays
    exact ⟨hinv.stays hstays, hstays, (fun _ _ => rfl), nofun⟩
  | error e =>
    have hstays : Stays pid args s s' := by
      cases hdoes.1 with
      | inl heq => exact heq ▸ hkeeps.toStays
      | inr heq => exact heq ▸ (hkeeps.trans .contain).toStays
    exact ⟨hinv.stays hstays, hstays, nofun,
      fun message h => hdoes.2 message (Except.error.inj h)⟩

lemma uncommitted_accounts {attempt : ℕ} {message : String} (hinv : Within limit used s) :
    TimerDoes args limit used
      (Split (fun s' failure => Stays pid args s s' ∧ Accounted pid args s' failure)
        fun _ _ => False)
      (args.uncommitted pid attempt message) s := by
  refine (markerMatches_watches hinv).bind (fun s1 current hinv1 h1 => ?_)
    fun _ _ _ h => h.elim
  refine .ite (fun hno => ⟨hinv1, h1.1.toStays, h1.2 (by simpa using hno)⟩) fun _ => ?_
  exact ⟨hinv1, h1.1.toStays, .inl rfl⟩

lemma terminalRecoveryFailure_accounts {attempt : ℕ} (hinv : Within limit used s) :
    TimerDoes args limit used
      (Split (fun s' failure => Stays pid args s s' ∧ Accounted pid args s' failure)
        fun _ _ => False)
      (args.terminalRecoveryFailure pid attempt) s := by
  refine (beginCommittedMcpLifecycleContainment_commits pid hinv).bind
    (fun s1 committed hinv1 h1 => ?_) fun _ _ _ h => h.elim
  obtain ⟨hstays, hcommitted, hunmarked⟩ := h1
  cases committed with
  | ok u => exact ⟨hinv1, hstays, .inr (hcommitted u rfl)⟩
  | error e =>
  cases e with
  | durable message retain =>
    cases retain with
    | true => exact ⟨hinv1, hstays, .inl rfl⟩
    | false => exact absurd rfl (hunmarked message)
  | plain message =>
    exact (uncommitted_accounts hinv1).mono fun s2 r _ h2 => by
      cases r with
      | ok failure => exact ⟨hstays.trans h2.1, h2.2⟩
      | error e => exact h2

lemma throwTerminal_accounts {attempt : ℕ} (hinv : Within limit used s) :
    TimerDoes args limit used
      (Split (fun _ (_ : α) => False) fun s' e => Stays pid args s s' ∧ Accounted pid args s' e)
      (args.throwTerminal pid attempt) s := by
  refine (terminalRecoveryFailure_accounts hinv).bind (fun s1 failure hinv1 h1 => ?_)
    fun _ _ _ h => h.elim
  exact ⟨hinv1, h1⟩

/-! ## The set-up of the fence -/

lemma Accounted.kept {failure : Failure} (h : Accounted pid args s failure) :
    Kept s failure := by
  intro hdurable
  cases failure with
  | plain message => cases hdurable
  | durable message retain =>
    cases h with
    | inl hretain => exact .inr (.inl hretain)
    | inr hcontained => exact .inl hcontained

lemma Fails.of_clear {failure : Failure} (hclear : s.terminalContainment = false)
    (h : Kept s failure) : Fails pid args s failure :=
  ⟨h, fun hset => absurd (hclear.symm.trans hset) (by simp)⟩

lemma assertTakeoverAuthority_ahead (hinv : Within limit used s) :
    TimerDoes args limit used
      (Split (fun s' _ => Stays pid args s s') fun s' e => Stays pid args s s' ∧ Kept s' e)
      (args.assertTakeoverAuthority pid) s := by
  refine (markerMatches_watches hinv).bind (fun s1 current hinv1 h1 => ?_)
    fun _ _ _ h => h.elim
  refine .ite (fun _ => ⟨hinv1, h1.1.toStays⟩) fun _ => ⟨hinv1, h1.1.toStays, fun h => ?_⟩
  cases h

/-- A set-up that fails counts, and the set-up goes on only within the budget. -/
lemma onSetupFailure_counts (hinv : Within limit used s) :
    TimerDoes args limit used
      (Split (fun s' _ => Ahead s s' ∧ s'.attemptsUsed = s.attemptsUsed + 1 ∧
          s'.attemptsUsed < options.attempts) fun s' e => Ahead s s' ∧ Kept s' e)
      (args.onSetupFailure pid options) s := by
  refine (useAttempt_counts pid hinv).bind (fun s1 attempt hinv1 h1 => ?_) fun _ _ _ h => h.elim
  obtain ⟨hcounts, rfl⟩ := h1
  refine .ite (fun _ => ?_) fun hbudget => ?_
  · exact (throwTerminal_accounts hinv1).mono fun s2 r _ h2 => by
      cases r with
      | ok a => exact h2.elim
      | error e => exact ⟨hcounts.ahead.trans h2.1.ahead, h2.2.kept⟩
  · refine (assertTakeoverAuthority_ahead hinv1).mono fun s2 r _ h2 => ?_
    cases r with
    | ok _ =>
      have hused := h2.attemptsUsed
      have hcount := hcounts.attemptsUsed
      exact ⟨hcounts.ahead.trans h2.ahead, by omega, by omega⟩
    | error e => exact ⟨hcounts.ahead.trans h2.1.ahead, h2.2⟩

/-- The gate is taken within the budget. The budget is what the loop counts down, so it does
not come to its end. -/
lemma acquireDeadlineFence_takes {left : ℕ} (hinv : Within limit used s)
    (hclear : s.terminalContainment = false) (hbudget : s.attemptsUsed < options.attempts)
    (hleft : options.attempts ≤ s.attemptsUsed + left) :
    TimerDoes args limit used
      (Split (fun s' _ => s'.gatesHeld ∧ s'.terminalContainment = false ∧
          s'.attemptsUsed < options.attempts) (Fails pid args))
      (args.acquireDeadlineFence pid options left) s := by
  induction left generalizing s with
  | zero => omega
  | succ left ih =>
    refine ⟨hinv, fun s' answer hcan => ?_⟩
    obtain ⟨s1, hother, hdoes⟩ := hcan
    have hkeeps : Keeps pid args s s1 := hother.keeps
    have hused := hkeeps.attemptsUsed
    cases answer with
    | error e =>
      have hstays : Stays pid args s s' := by
        cases hdoes.1 with
        | inl heq => exact heq ▸ hkeeps.toStays
        | inr heq => exact heq ▸ (hkeeps.trans .contain).toStays
      refine ⟨hinv.stays hstays, .of_clear (hstays.terminalContainment.trans hclear) ?_⟩
      intro hdurable
      cases e with
      | plain message => cases hdurable
      | durable message retain =>
        cases retain with
        | true => exact .inr (.inl rfl)
        | false => exact .inl (hdoes.2 message rfl)
    | ok event =>
      cases event with
      | acquired =>
        have heq : s' = { s1 with gatesHeld := true } := hdoes
        subst heq
        obtain ⟨hle, hrestores, hlimit⟩ := hinv.stays hkeeps.toStays
        exact ⟨⟨hle, hrestores, hlimit⟩, rfl, hkeeps.terminalContainment.trans hclear,
          by dsimp only; omega⟩
      | setupFailed =>
        have heq : s' = s1 := hdoes
        subst heq
        have hclear' := hkeeps.terminalContainment.trans hclear
        refine (onSetupFailure_counts (hinv.stays hkeeps.toStays)).bind
          (fun s2 _ hinv2 h2 => ?_)
          fun s2 e _ h2 => .of_clear (h2.1.terminalContainment.trans hclear') h2.2
        obtain ⟨hahead, hcount, hlt⟩ := h2
        exact ih hinv2 (hahead.terminalContainment.trans hclear') hlt (by omega)

lemma awaitMainOwner_stays (pid : ℕ) (hinv : Within limit used s) :
    TimerDoes args limit used (fun s' _ => Stays pid args s s') awaitMainOwner s := by
  refine ⟨hinv, fun s' answer hcan => ?_⟩
  obtain ⟨s1, hother, hdoes⟩ := hcan
  have hkeeps : Keeps pid args s s1 := hother.keeps
  have hstays : Stays pid args s s' := by
    cases hdoes with
    | inl heq => exact heq ▸ hkeeps.toStays
    | inr heq => exact heq ▸ (hkeeps.trans .contain).toStays
  exact ⟨hinv.stays hstays, hstays⟩

lemma tryPublish_ahead (hinv : Within limit used s) :
    TimerDoes args limit used
      (Split (fun s' published => Ahead s s' ∧ (published = true →
          s'.attemptsUsed = s.attemptsUsed) ∧ (published = false →
          s.attemptsUsed < s'.attemptsUsed ∧ s'.attemptsUsed < options.attempts))
        fun s' _ => Ahead s s')
      (args.tryPublish pid options) s := by
  refine (awaitMainOwner_stays pid hinv).bind (fun s1 event hinv1 h1 => ?_)
    fun s1 e _ h1 => h1.ahead
  cases event with
  | acquired => exact ⟨hinv1, h1.ahead, (fun _ => h1.attemptsUsed), nofun⟩
  | setupFailed =>
  refine (onSetupFailure_counts hinv1).bind (fun s2 _ hinv2 h2 => ?_)
    fun s2 e _ h2 => h1.ahead.trans h2.1
  have hused := h1.attemptsUsed
  obtain ⟨hahead, hcount, hlt⟩ := h2
  exact ⟨hinv2, h1.ahead.trans hahead, nofun, fun _ => ⟨by omega, hlt⟩⟩

lemma checkTakeoverToken_stays (pid : ℕ) (hinv : Within limit used s) :
    TimerDoes args limit used (fun s' _ => Stays pid args s s')
      (TimerArgs.checkTakeoverToken token) s := by
  have hread : TimerDoes args limit used (fun s' _ => Stays pid args s s')
      TimerArgs.readShieldsTimerTakeoverToken s :=
    (embed_does (readTimerMarker_sees pid hinv)).bind
      (fun s1 marker hinv1 h1 => ⟨hinv1, h1.1.toStays⟩) fun _ _ _ h => h.elim
  refine hread.bind (fun s1 current hinv1 h1 => ?_) fun s1 e _ h1 => h1
  exact .ite (fun _ => ⟨hinv1, h1⟩) fun _ => ⟨hinv1, h1⟩

lemma publishFailed_ahead {error : Failure} (hinv : Within limit used s) :
    TimerDoes args limit used
      (Split (fun s' _ => Ahead s s' ∧ s.attemptsUsed < s'.attemptsUsed ∧
          s'.attemptsUsed < options.attempts) fun s' _ => Ahead s s')
      (args.publishFailed pid options token error) s := by
  refine (checkTakeoverToken_stays pid hinv).bind (fun s1 _ hinv1 h1 => ?_)
    fun s1 e _ h1 => h1.ahead
  cases error with
  | durable message retain => exact ⟨hinv1, h1.ahead⟩
  | plain message =>
  refine (onSetupFailure_counts hinv1).mono fun s2 r _ h2 => ?_
  cases r with
  | ok _ =>
    have hused := h1.attemptsUsed
    obtain ⟨hahead, hcount, hlt⟩ := h2
    exact ⟨h1.ahead.trans hahead, by omega, hlt⟩
  | error e => exact h1.ahead.trans h2.1

lemma publishDeadlineMainOwner_publishes {left : ℕ} (hinv : Within limit used s)
    (hbudget : s.attemptsUsed < options.attempts)
    (hleft : options.attempts ≤ s.attemptsUsed + left) :
    TimerDoes args limit used
      (Split (fun s' _ => Ahead s s' ∧ s'.attemptsUsed < options.attempts)
        fun s' _ => Ahead s s')
      (args.publishDeadlineMainOwner pid options token left) s := by
  induction left generalizing s with
  | zero => omega
  | succ left ih =>
    refine (tryPublish_ahead hinv).attempt_bind fun s1 published hinv1 h1 => ?_
    cases published with
    | ok published =>
      obtain ⟨hahead, hsame, hmore⟩ := h1
      cases published with
      | true => exact ⟨hinv1, hahead, (hsame rfl).symm ▸ hbudget⟩
      | false =>
      obtain ⟨hless, hlt⟩ := hmore rfl
      refine (ih hinv1 hlt (by omega)).mono fun s2 r _ h2 => ?_
      cases r with
      | ok _ => exact ⟨hahead.trans h2.1, h2.2⟩
      | error e => exact hahead.trans h2
    | error error =>
      refine (publishFailed_ahead hinv1).bind (fun s2 _ hinv2 h2 => ?_)
        fun s2 e _ h2 => h1.trans h2
      obtain ⟨hahead, hless, hlt⟩ := h2
      have hused := h1.attemptsUsed
      refine (ih hinv2 hlt (by omega)).mono fun s3 r _ h3 => ?_
      cases r with
      | ok _ => exact ⟨h1.trans (hahead.trans h3.1), h3.2⟩
      | error e => exact h1.trans (hahead.trans h3)

lemma ownMain_ahead {operation : TimerProgram α} {done : TimerHost → Prop}
    (hoperation : ∀ s', Within limit used s' → s'.attemptsUsed < options.attempts →
      TimerDoes args limit used (Split (fun s'' _ => Ahead s' s'' ∧ done s'')
        (Leaves pid args s')) operation s')
    (hinv : Within limit used s) (hbudget : s.attemptsUsed < options.attempts) :
    TimerDoes args limit used
      (Split (fun s' _ => Ahead s s' ∧ done s') (Leaves pid args s))
      (args.ownMain pid options token operation) s := by
  refine (publishDeadlineMainOwner_publishes hinv hbudget (by omega)).bind
    (fun s1 _ hinv1 h1 => ?_) fun s1 e _ h1 => h1.leaves
  refine (checkTakeoverToken_stays pid hinv1).bind (fun s2 _ hinv2 h2 => ?_)
    fun s2 e _ h2 => (h1.1.trans h2.ahead).leaves
  have hahead : Ahead s s2 := h1.1.trans h2.ahead
  have hlt : s2.attemptsUsed < options.attempts := h2.attemptsUsed.symm ▸ h1.2
  refine (hoperation s2 hinv2 hlt).mono fun s3 r _ h3 => ?_
  cases r with
  | ok a => exact ⟨hahead.trans h3.1, h3.2⟩
  | error e => exact hahead.trans_leaves h3

lemma retainOwnedLifecycleGateAfterFailure_keeps (pid : ℕ) {error : Failure}
    (hinv : Within limit used s) :
    TimerDoes args limit used
      (Split (fun s' retain => Stays pid args s s' ∧ (retain = false → error.isDurable →
        s'.contained)) fun _ _ => False)
      (TimerArgs.retainOwnedLifecycleGateAfterFailure error) s := by
  cases error with
  | plain message => exact ⟨hinv, .refl, nofun⟩
  | durable message retain =>
  cases retain with
  | true => exact ⟨hinv, .refl, nofun⟩
  | false =>
  refine ⟨hinv, fun s' (answer : Except Failure Bool) hcan => ?_⟩
  obtain ⟨s1, hother, rfl, hanswer⟩ := hcan
  have hkeeps : Keeps pid args s s' := hother.keeps
  cases answer with
  | error e => exact ⟨hinv.stays hkeeps.toStays, hkeeps.toStays, nofun⟩
  | ok found =>
    refine ⟨hinv.stays hkeeps.toStays, hkeeps.toStays, fun hno _ => ?_⟩
    have hfound : found := by simpa using hno
    exact hother.contained_of_containment ((hanswer found rfl).symm.trans hfound)

/-- The gates are released, and the rest stays. -/
structure Released (pid : ℕ) (args : TimerArgs) (s s' : TimerHost) : Prop where
  recordedUp : s'.recordedUp = s.recordedUp
  terminalContainment : s'.terminalContainment = s.terminalContainment
  lost : Lost pid args s → Lost pid args s'
  contained : s.contained → s'.contained

lemma releaseGates_releases (pid : ℕ) (hinv : Within limit used s) :
    TimerDoes args limit used
      (Split (fun s' _ => Released pid args s s') fun s' e =>
        Released pid args s s' ∧ e.isDurable = false)
      releaseGates s := by
  refine ⟨hinv, fun s' (answer : Except Failure Unit) hcan => ?_⟩
  obtain ⟨s1, hother, ⟨gatesHeld, rfl⟩, herror⟩ := hcan
  have hkeeps : Keeps pid args s s1 := hother.keeps
  obtain ⟨hle, hrestores, hlimit⟩ := hinv.stays hkeeps.toStays
  have hreleased : Released pid args s { s1 with gatesHeld } :=
    ⟨hkeeps.recordedUp, hkeeps.terminalContainment, hkeeps.lost, hkeeps.contained⟩
  cases answer with
  | error e => exact ⟨⟨hle, hrestores, hlimit⟩, hreleased, herror e rfl⟩
  | ok _ => exact ⟨⟨hle, hrestores, hlimit⟩, hreleased⟩

lemma releaseAfter_kept {result : Except Failure α} (hinv : Within limit used s)
    (hfailed : ∀ e, result = .error e → s.gatesHeld ∧ (s.terminalContainment →
      Lost pid args s ∨ s.contained ∨ e.isDurable))
    (hended : ∀ a, result = .ok a → s.terminalContainment = false ∧ Ended pid args s) :
    TimerDoes args limit used (Split (fun s' _ => Ended pid args s') (Fails pid args))
      (TimerArgs.releaseAfter result) s := by
  have hplain : ∀ {s : TimerHost} {e : Failure}, e.isDurable = false → Kept s e := by
    intro s e he hdurable; exact absurd hdurable (by simp [he])
  cases result with
  | ok a =>
    obtain ⟨hclear, hended⟩ := hended a rfl
    refine (releaseGates_releases pid hinv).bind (fun s1 _ hinv1 h1 => ⟨hinv1, ?_⟩)
      fun s1 e _ h1 => .of_clear (h1.1.terminalContainment.trans hclear) (hplain h1.2)
    cases hended with
    | inl hup => exact .inl (h1.recordedUp.trans hup)
    | inr hlost => exact .inr (h1.lost hlost)
  | error error =>
    obtain ⟨hheld, hterminal⟩ := hfailed error rfl
    refine (retainOwnedLifecycleGateAfterFailure_keeps pid hinv).bind
      (fun s1 retain hinv1 h1 => ?_) fun _ _ _ h => h.elim
    obtain ⟨hstays, hcontained⟩ := h1
    have hreason : s1.terminalContainment →
        Lost pid args s1 ∨ s1.contained ∨ error.isDurable := fun hset =>
      (hterminal (hstays.terminalContainment ▸ hset)).imp hstays.lost
        (Or.imp_left hstays.contained)
    refine .ite (fun _ => ⟨hinv1, ?_, hreason⟩) fun hno => ?_
    · intro _; exact .inr (.inr (hstays.gatesHeld.trans hheld))
    -- they are released only where the sandbox is contained or the failure is plain
    have hdone : error.isDurable → s1.contained := hcontained (by simpa using hno)
    have hstill : ∀ {s2 : TimerHost}, Released pid args s1 s2 → s2.terminalContainment →
        Lost pid args s2 ∨ s2.contained := by
      intro s2 h2 hset
      cases hreason (h2.terminalContainment ▸ hset) with
      | inl hlost => exact .inl (h2.lost hlost)
      | inr hother => exact .inr (h2.contained (hother.elim id hdone))
    refine (releaseGates_releases pid hinv1).bind (fun s2 _ hinv2 h2 => ?_)
      fun s2 e _ h2 => ⟨hplain h2.2, fun hset => (hstill h2.1 hset).imp_right .inl⟩
    exact ⟨hinv2, (fun hdurable => .inl (h2.contained (hdone hdurable))),
      fun hset => (hstill h2 hset).imp_right .inl⟩

/-- An operation under the fence: it ends, or a durable failure leaves the sandbox contained
or the gates closed. -/
lemma withMcpLifecycleDeadlineFence_kept {operation : TimerProgram α}
    (hoperation : ∀ s', Within limit used s' → s'.attemptsUsed < options.attempts →
      TimerDoes args limit used (Split (fun s'' _ => Ahead s' s'' ∧ Ended pid args s'')
        (Leaves pid args s')) operation s')
    (hinv : Within limit used s) (hclear : s.terminalContainment = false)
    (hbudget : s.attemptsUsed < options.attempts) :
    TimerDoes args limit used (Split (fun s' _ => Ended pid args s') (Fails pid args))
      (args.withMcpLifecycleDeadlineFence pid options token operation) s := by
  refine (acquireDeadlineFence_takes hinv hclear hbudget (by omega)).bind
    (fun s1 _ hinv1 h1 => ?_) fun s1 e _ h1 => h1
  obtain ⟨hheld, hclear1, hlt⟩ := h1
  refine (ownMain_ahead hoperation hinv1 hlt).attempt_bind fun s2 result hinv2 h2 => ?_
  refine releaseAfter_kept hinv2 (fun e he => ?_) fun a ha => ?_
  · subst he
    refine ⟨h2.gatesHeld.trans hheld, fun hset => ?_⟩
    exact (h2.terminal hset).resolve_left (by simp [hclear1])
  · subst ha; exact ⟨h2.1.terminalContainment.trans hclear1, h2.2⟩

abbrev Tried (pid : ℕ) (args : TimerArgs) (s : TimerHost) :
    TimerHost → Except Failure RestoreAttemptOutcome → Prop :=
  Split (fun s' outcome => Ahead s s' ∧ s'.attemptsUsed = s.attemptsUsed ∧
      (outcome = .complete → s'.recordedUp) ∧ (outcome = .revoked → Lost pid args s'))
    fun s' _ => Ahead s s' ∧ s'.attemptsUsed = s.attemptsUsed

lemma Attempted.tried {r : Except Failure RestoreAttemptOutcome}
    (h : Attempted pid args s s' r) : Tried pid args s s' r := by
  cases r with
  | ok outcome => exact ⟨h.1.ahead, h.1.attemptsUsed, h.2⟩
  | error e => exact ⟨h.ahead, h.attemptsUsed⟩

lemma enterTransitionLock_keeps (pid : ℕ) (hinv : Within limit used s) :
    TimerDoes args limit used (fun s' _ => Keeps pid args s s') enterTransitionLock s := by
  refine ⟨hinv, fun s' answer hcan => ?_⟩
  obtain ⟨s1, hother, rfl⟩ := hcan
  have hkeeps : Keeps pid args s s' := hother.keeps
  exact ⟨hinv.stays hkeeps.toStays, hkeeps⟩

lemma leaveTransitionLock_keeps (pid : ℕ) (hinv : Within limit used s) :
    TimerDoes args limit used (fun s' _ => Keeps pid args s s') leaveTransitionLock s := by
  refine ⟨hinv, fun s' answer hcan => ?_⟩
  obtain ⟨s1, hother, rfl⟩ := hcan
  have hkeeps : Keeps pid args s s' := hother.keeps
  exact ⟨hinv.stays hkeeps.toStays, hkeeps⟩

lemma Attempted.keeps {r : Except Failure RestoreAttemptOutcome}
    (h : Attempted pid args s s' r) (hs : Keeps pid args s' s'') :
    Attempted pid args s s'' r := by
  cases r with
  | ok outcome =>
    exact ⟨h.1.trans hs.toStays, fun ho => hs.recordedUp.trans (h.2.1 ho),
      fun ho => hs.lost (h.2.2 ho)⟩
  | error e => exact h.trans hs.toStays

lemma restoreUnderDeadlineFence_attempted (htoken : args.processToken = some token)
    (hinv : Within limit used s) :
    TimerDoes args limit used (Attempted pid args s) (args.restoreUnderDeadlineFence pid token)
      s := by
  refine (enterTransitionLock_keeps pid hinv).bind (fun s1 _ hinv1 h1 => ?_)
    fun s1 e _ h1 => h1.toStays
  refine (embed_does (attempt_ends htoken hinv1)).attempt_bind fun s2 r hinv2 h2 => ?_
  have hafter : Attempted pid args s s2 r := .after h1.toStays h2
  refine (leaveTransitionLock_keeps pid hinv2).bind (fun s3 _ hinv3 h3 => ?_)
    fun s3 e _ h3 => ?_
  · exact ⟨hinv3, hafter.keeps h3⟩
  · cases r with
    | ok outcome => exact hafter.1.trans h3.toStays
    | error e => exact hafter.trans h3.toStays

lemma prepareAutoRestoreTransitionTakeover_begins (hinv : Within limit used s)
    (hcounted : s.restoreAttempts < s.attemptsUsed) (hlimit : s.restoreAttempts < limit) :
    TimerDoes args limit used
      (fun s' _ => Ahead s s' ∧ s'.attemptsUsed = s.attemptsUsed)
      prepareAutoRestoreTransitionTakeover s := by
  refine ⟨hinv, fun s' answer hcan => ?_⟩
  obtain ⟨s1, hother, hdoes⟩ := hcan
  have hused := hother.attemptsUsed
  have hheld := hother.gatesHeld
  have hterminal := hother.terminalContainment
  have hrestores : s'.restoreAttempts = s.restoreAttempts + 1 ∧
      s'.attemptsUsed = s.attemptsUsed ∧ s'.gatesHeld = s.gatesHeld ∧
      s'.terminalContainment = s.terminalContainment := by
    rw [← hother.restoreAttempts]
    cases hdoes with
    | inl heq => exact heq ▸ ⟨rfl, hused, hheld, hterminal⟩
    | inr heq => exact heq ▸ ⟨rfl, hused, hheld, hterminal⟩
  obtain ⟨hbegun, hsame, hgates, hflag⟩ := hrestores
  have hle := hinv.used_le
  exact ⟨⟨by omega, by omega, by omega⟩, ⟨hgates, hflag, hsame.ge⟩, hsame⟩

lemma prepareAndRestore_tried (htoken : args.processToken = some token)
    (hinv : Within limit used s) (hcounted : s.restoreAttempts < s.attemptsUsed)
    (hlimit : s.restoreAttempts < limit) :
    TimerDoes args limit used (Tried pid args s) (args.prepareAndRestore pid token) s := by
  refine (prepareAutoRestoreTransitionTakeover_begins hinv hcounted hlimit).bind
    (fun s1 _ hinv1 h1 => ?_) fun s1 e _ h1 => h1
  refine (restoreUnderDeadlineFence_attempted htoken hinv1).mono fun s2 r _ h2 => ?_
  have htried := h2.tried
  cases r with
  | ok outcome => exact ⟨h1.1.trans htried.1, htried.2.1.trans h1.2, htried.2.2⟩
  | error e => exact ⟨h1.1.trans htried.1, htried.2.trans h1.2⟩

/-- What comes of an attempt once a failure of it was looked at. -/
abbrev Judged (pid : ℕ) (args : TimerArgs) (s : TimerHost) :
    TimerHost → Except Failure RestoreAttemptOutcome → Prop :=
  Split (fun s' outcome => Ahead s s' ∧ s'.attemptsUsed = s.attemptsUsed ∧
      (outcome = .complete → s'.recordedUp) ∧ (outcome = .revoked → Lost pid args s'))
    (Leaves pid args s)

lemma containedFailure_judged (pid : ℕ) {error : Failure} (hinv : Within limit used s) :
    TimerDoes args limit used (Judged pid args s) (TimerArgs.containedFailure error) s := by
  refine (setTerminalContainment_sets pid hinv).bind (fun s1 _ hinv1 h1 => ⟨hinv1, ?_⟩)
    fun _ _ _ h => h.elim
  obtain ⟨s2, hkeeps, rfl⟩ := h1
  exact ⟨hkeeps.gatesHeld, fun _ => .inr (.inr (.inr (by cases error <;> rfl)))⟩

lemma attemptFailed_judged (pid : ℕ) {error : Failure} (hinv : Within limit used s) :
    TimerDoes args limit used (Judged pid args s) (TimerArgs.attemptFailed error) s := by
  refine .ite (fun _ => containedFailure_judged pid hinv) fun _ => ?_
  refine ⟨hinv, fun s' (contained : Bool) hcan => ?_⟩
  obtain ⟨s1, hother, rfl, -⟩ := hcan
  have hkeeps : Keeps pid args s s' := hother.keeps
  have hinv' := hinv.stays hkeeps.toStays
  have hstays := hkeeps.toStays
  refine .ite (fun _ => ?_) fun _ => ⟨hinv', hstays.ahead, hstays.attemptsUsed, nofun, nofun⟩
  exact (containedFailure_judged pid hinv').mono fun _ r _ h => by
    cases r with
    | ok outcome => exact ⟨hstays.ahead.trans h.1, h.2.1.trans hstays.attemptsUsed, h.2.2⟩
    | error e => exact hstays.ahead.trans_leaves h

lemma attemptOutcome_judged {result : Except Failure RestoreAttemptOutcome}
    (hinv : Within limit used s') (h : Tried pid args s s' result) :
    TimerDoes args limit used (Judged pid args s) (TimerArgs.attemptOutcome result) s' := by
  cases result with
  | ok outcome => exact ⟨hinv, h⟩
  | error error =>
  refine (attemptFailed_judged pid hinv).mono fun s1 r _ h1 => ?_
  cases r with
  | ok outcome => exact ⟨h.1.trans h1.1, h1.2.1.trans h.2, h1.2.2⟩
  | error e => exact h.1.trans_leaves h1

lemma budgetUsedUp_leaves {attempt : ℕ} (hinv : Within limit used s) :
    TimerDoes args limit used (Split (fun _ _ => False) (Leaves pid args s))
      (args.budgetUsedUp pid attempt) s := by
  refine (setTerminalContainment_sets pid hinv).bind (fun s1 _ hinv1 h1 => ?_)
    fun _ _ _ h => h.elim
  obtain ⟨s2, hkeeps, rfl⟩ := h1
  refine (throwTerminal_accounts hinv1).mono fun s3 r _ h3 => ?_
  cases r with
  | ok a => exact h3.elim
  | error e =>
  obtain ⟨hstays, haccounted⟩ := h3
  refine ⟨hstays.gatesHeld.trans hkeeps.gatesHeld, fun _ => .inr ?_⟩
  cases e with
  | plain message => exact .inl haccounted
  | durable message retain => exact .inr (.inr rfl)

/-- The attempts end with the shields up or with the authority lost; otherwise the loop fails, the
gates held as before. -/
lemma restoreWhileDeadlineOwned_ends {left exitCode : ℕ}
    (htoken : args.processToken = some token) (hinv : Within options.attempts used s)
    (hbudget : s.attemptsUsed < options.attempts)
    (hleft : options.attempts ≤ s.attemptsUsed + left) :
    TimerDoes args options.attempts used
      (Split (fun s' _ => Ahead s s' ∧ Ended pid args s') (Leaves pid args s))
      (args.restoreWhileDeadlineOwned pid options token left exitCode) s := by
  induction left generalizing s exitCode with
  | zero => omega
  | succ left ih =>
    refine (useAttempt_counts pid hinv).bind (fun s1 attempt hinv1 h1 => ?_) fun _ _ _ h => h.elim
    obtain ⟨hcounts, rfl⟩ := h1
    -- the attempt is counted before it begins, so it is within the budget
    have hcount := hcounts.attemptsUsed
    have hsame := hcounts.restoreAttempts
    have hrestores := hinv.restores_le_used
    refine (prepareAndRestore_tried htoken hinv1 (by omega) (by omega)).attempt_bind
      fun s2 result hinv2 h2 => ?_
    refine (attemptOutcome_judged hinv2 h2).bind (fun s3 outcome hinv3 h3 => ?_)
      fun s3 e _ h3 => hcounts.ahead.trans_leaves h3
    obtain ⟨hahead, hused, hcomplete, hrevoked⟩ := h3
    have hthere : Ahead s s3 := hcounts.ahead.trans hahead
    cases outcome with
    | complete => exact ⟨hinv3, hthere, .inl (hcomplete rfl)⟩
    | revoked => exact ⟨hinv3, hthere, .inr (hrevoked rfl)⟩
    | retry =>
    refine (markerMatches_watches hinv3).bind (fun s4 owned hinv4 h4 => ?_)
      fun _ _ _ h => h.elim
    have hahead4 : Ahead s s4 := hthere.trans h4.1.toStays.ahead
    refine .ite (fun hno => ⟨hinv4, hahead4, .inr (h4.2 (by simpa using hno))⟩) fun _ => ?_
    refine .ite (fun _ => ?_) fun hmore => ?_
    · exact (budgetUsedUp_leaves hinv4).mono fun s5 r _ h5 => by
        cases r with
        | ok a => exact h5.elim
        | error e => exact hahead4.trans_leaves h5
    · refine (markerMatches_watches hinv4).bind (fun s5 stillOwned hinv5 h5 => ?_)
        fun _ _ _ h => h.elim
      have hahead5 : Ahead s s5 := hahead4.trans h5.1.toStays.ahead
      refine .ite (fun hno => ⟨hinv5, hahead5, .inr (h5.2 (by simpa using hno))⟩) fun _ => ?_
      have h4used := h4.1.attemptsUsed
      have h5used := h5.1.attemptsUsed
      refine (ih hinv5 (by omega) (by omega)).mono fun s6 r _ h6 => ?_
      cases r with
      | ok code => exact ⟨hahead5.trans h6.1, h6.2⟩
      | error e => exact hahead5.trans_leaves h6

lemma scheduleRetry_schedules {reason : TimerArgs.RescheduleReason}
    {otherwise : TimerArgs.RunEnd} (hinv : Within limit used s) :
    TimerDoes args limit used
      (Split (fun s' runEnd => Keeps pid args s s' ∧ (runEnd = .rescheduled reason ∧
        ¬Lost pid args s' ∨ runEnd = otherwise ∧ Lost pid args s')) fun _ _ => False)
      (args.scheduleRetry pid reason otherwise) s := by
  refine (embed_does (readTimerMarker_sees pid hinv)).bind (fun s1 marker hinv1 h1 => ?_)
    fun _ _ _ h => h.elim
  obtain ⟨hkeeps, rfl⟩ := h1
  exact .ite (fun hyes => ⟨hinv1, hkeeps, .inl ⟨rfl, by simp [Lost, hyes]⟩⟩) fun hno =>
    ⟨hinv1, hkeeps, .inr ⟨rfl, by simpa [Lost] using hno⟩⟩

lemma rebuildLeaseOwnerIsCurrent_sees (pid : ℕ) (hinv : Within limit used s) :
    TimerDoes args limit used
      (Split (fun s' leased => Keeps pid args s s' ∧ (leased = true → s'.leaseOwnerSeen = true))
        fun _ _ => False)
      args.rebuildLeaseOwnerIsCurrent s := by
  unfold TimerArgs.rebuildLeaseOwnerIsCurrent
  cases hlease : args.leaseOwner with
  | none => exact ⟨hinv, .refl, nofun⟩
  | some lease =>
  obtain ⟨owner, startIdentity⟩ := lease
  have halive : ShieldsDoes args limit used
      (Split (fun s' _ => Keeps pid args s s') fun _ _ => False) (isProcessAlive owner) s := by
    refine Always.ask hinv fun s' alive hcan => ?_
    have hquiet : (Call.isProcessAlive owner).Bystanding := trivial
    have hkeeps : Keeps pid args s s' := ShieldsCallCan.keeps hquiet hcan
    exact ⟨hinv.stays hkeeps.toStays, hkeeps⟩
  refine (embed_does halive).bind (fun s1 alive hinv1 h1 => ?_) fun _ _ _ h => h.elim
  replace h1 : Keeps pid args s s1 := h1
  refine .ite (fun _ => ⟨hinv1, h1, nofun⟩) fun _ => ?_
  refine ⟨hinv1, fun s2 (identity : Option String) hcan => ?_⟩
  have hquiet : (Call.readProcessStartIdentity owner).Bystanding := trivial
  have hkeeps : Keeps pid args s1 s2 := ShieldsCallCan.keeps hquiet hcan
  obtain ⟨s3, -, hidentity, rfl⟩ := hcan
  refine ⟨hinv1.stays hkeeps.toStays, h1.trans hkeeps, fun hsame => ?_⟩
  have hstart : identity = some startIdentity := by simpa using hsame
  have hthere : s3.processes owner = some startIdentity := by
    cases hidentity with
    | inl heq => exact heq.symm.trans hstart
    | inr hnone => exact absurd (hnone.symm.trans hstart) (by simp)
  simp [hthere, hlease]

lemma recoverWithToken_kept (hinv : Within options.attempts used s)
    (hclear : s.terminalContainment = false) (hbudget : s.attemptsUsed < options.attempts) :
    TimerDoes args options.attempts used
      (Split (fun s' runEnd => runEnd.Sound pid args options used s') (Fails pid args))
      (args.recoverWithToken pid options) s := by
  unfold TimerArgs.recoverWithToken
  cases htakeover : args.takeoverToken with
  | none => exact ⟨hinv, .of_clear hclear nofun⟩
  | some token =>
  have htoken : args.processToken = some token :=
    (Option.filter_eq_some_iff.mp htakeover).1
  refine (withMcpLifecycleDeadlineFence_kept (fun s1 hinv1 hlt =>
    restoreWhileDeadlineOwned_ends htoken hinv1 hlt (by omega)) hinv hclear hbudget).bind
    (fun s1 code hinv1 h1 => ?_) fun s1 e _ h1 => h1
  refine ⟨hinv1, ?_⟩
  cases h1 with
  | inl hup => exact .inl hup
  | inr hlost => exact .inr (.inl hlost)

lemma runBody_kept (hinv : Within options.attempts used s)
    (hclear : s.terminalContainment = false) (hbudget : s.attemptsUsed < options.attempts) :
    TimerDoes args options.attempts used
      (Split (fun s' runEnd => runEnd.Sound pid args options used s') (Fails pid args))
      (args.runBody pid options) s := by
  refine (markerMatches_watches hinv).bind (fun s1 current hinv1 h1 => ?_)
    fun _ _ _ h => h.elim
  refine .ite (fun hno => ⟨hinv1, .inr (.inl (h1.2 (by simpa using hno)))⟩) fun _ => ?_
  refine (rebuildLeaseOwnerIsCurrent_sees pid hinv1).bind (fun s2 leased hinv2 h2 => ?_)
    fun _ _ _ h => h.elim
  have h1used := h1.1.attemptsUsed
  have h2used := h2.1.attemptsUsed
  have hclear2 := (h1.1.trans h2.1).terminalContainment.trans hclear
  refine .ite (fun hleased => ?_) fun _ => recoverWithToken_kept hinv2 hclear2 (by omega)
  refine (scheduleRetry_schedules hinv2).mono fun s3 r _ h3 => ?_
  cases r with
  | error e => exact h3.elim
  | ok runEnd =>
  obtain ⟨hkeeps, hend⟩ := h3
  have h3used := hkeeps.attemptsUsed
  cases hend with
  | inl hre =>
    obtain ⟨rfl, -⟩ := hre
    exact ⟨hkeeps.leaseOwnerSeen (h2.2 hleased), by omega⟩
  | inr hout => obtain ⟨rfl, hlost⟩ := hout; exact .inr (.inl hlost)

/-- A failure still says what it said when nothing is taken back. -/
lemma Fails.mono {error : Failure} (h : Fails pid args s error)
    (hgates : s'.gatesHeld = s.gatesHeld)
    (hterminal : s'.terminalContainment = s.terminalContainment)
    (hcontained : s.contained → s'.contained) (hlost : Lost pid args s → Lost pid args s') :
    Fails pid args s' error where
  kept := fun hdurable => (h.kept hdurable).imp hcontained (Or.imp_right hgates.trans)
  terminal := fun hset => (h.terminal (hterminal ▸ hset)).imp hlost (Or.imp_left hcontained)

lemma Fails.keeps {error : Failure} (h : Fails pid args s error) (hs : Keeps pid args s s') :
    Fails pid args s' error := h.mono hs.gatesHeld hs.terminalContainment hs.contained hs.lost

lemma countFailure_counts {error : Failure} (hinv : Within limit used s)
    (hfails : Fails pid args s error) :
    TimerDoes args limit used
      (Split (fun s' count => used < s'.attemptsUsed ∧ Fails pid args s' error ∧
        count = s'.attemptsUsed) fun _ _ => False)
      (TimerArgs.countFailure used) s := by
  refine (readAttemptsUsed_reads pid hinv).bind (fun s1 count hinv1 h1 => ?_)
    fun _ _ _ h => h.elim
  obtain ⟨hkeeps, rfl⟩ := h1
  have hle := hinv1.used_le
  refine .ite (fun hfirst => ?_) fun hmore => ⟨hinv1, by omega, hfails.keeps hkeeps, rfl⟩
  refine (useAttempt_counts pid hinv1).mono fun s2 r _ h2 => ?_
  cases r with
  | error e => exact h2
  | ok count =>
    obtain ⟨hcounts, hcount⟩ := h2
    have hused := hcounts.attemptsUsed
    exact ⟨by omega, (hfails.keeps hkeeps).mono hcounts.gatesHeld hcounts.terminalContainment
      hcounts.contained hcounts.lost, hcount⟩

/-- The process may exit with the failure. -/
abbrev Exits (pid : ℕ) (args : TimerArgs) (options : TimerRuntimeOptions) (used : ℕ)
    (s : TimerHost) (error : Failure) : Prop :=
  (TimerArgs.RunEnd.exited 1 (some error)).Sound pid args options used s

lemma Exits.keeps {error : Failure} (h : Exits pid args options used s error)
    (hs : Keeps pid args s s') : Exits pid args options used s' error := by
  rcases h with hup | hlost | hcontained | ⟨failure, hreported, hdurable, hgates⟩
  · exact .inl (hs.recordedUp.trans hup)
  · exact .inr (.inl (hs.lost hlost))
  · exact .inr (.inr (.inl (hs.contained hcontained)))
  · exact .inr (.inr (.inr ⟨failure, hreported, hdurable,
      hgates.imp_right hs.gatesHeld.trans⟩))

lemma Kept.exits {error : Failure} (h : Kept s error) (hdurable : error.isDurable) :
    Exits pid args options used s error := by
  cases h hdurable with
  | inl hcontained => exact .inr (.inr (.inl hcontained))
  | inr hgates => exact .inr (.inr (.inr ⟨error, rfl, hdurable, hgates⟩))

lemma Accounted.exits {error : Failure} (h : Accounted pid args s error) :
    Exits pid args options used s error := by
  cases error with
  | plain message => exact .inr (.inl h)
  | durable message retain => exact h.kept.exits rfl

/-- A failure is tried again only after it was counted, and only while the marker is the one
of the timer; otherwise the process exits with it. -/
lemma retryOrExit_sound {error : Failure} (hinv : Within limit used s)
    (hagain : s.terminalContainment = false → s.attemptsUsed < options.attempts →
      Lost pid args s ∨ used < s.attemptsUsed)
    (hexits : s.terminalContainment = true ∨ options.attempts ≤ s.attemptsUsed →
      Exits pid args options used s error) :
    TimerDoes args limit used
      (Split (fun s' runEnd => runEnd.Sound pid args options used s') fun _ _ => False)
      (args.retryOrExit pid options error) s := by
  refine (readTerminalContainment_reads pid hinv).bind (fun s1 terminal hinv1 h1 => ?_)
    fun _ _ _ h => h.elim
  obtain ⟨hkeeps1, rfl⟩ := h1
  refine (readAttemptsUsed_reads pid hinv1).bind (fun s2 count hinv2 h2 => ?_)
    fun _ _ _ h => h.elim
  obtain ⟨hkeeps2, rfl⟩ := h2
  have hkeeps : Keeps pid args s s2 := hkeeps1.trans hkeeps2
  have hused := hkeeps.attemptsUsed
  rw [hkeeps1.terminalContainment]
  refine .ite (fun hmore => ?_) fun hnone => ⟨hinv2, ?_⟩
  · obtain ⟨hclear, hlt⟩ := hmore
    refine (scheduleRetry_schedules hinv2).mono fun s3 r _ h3 => ?_
    cases r with
    | error e => exact h3
    | ok runEnd =>
    obtain ⟨hkeeps3, hend⟩ := h3
    have h3used := hkeeps3.attemptsUsed
    cases hend with
    | inr hout => obtain ⟨rfl, hlost⟩ := hout; exact .inr (.inl hlost)
    | inl hre =>
      obtain ⟨rfl, howned⟩ := hre
      cases hagain hclear (by omega) with
      | inl hlost => exact absurd (hkeeps3.lost (hkeeps.lost hlost)) howned
      | inr hcounted => exact ⟨by omega, by omega⟩
  · have hwhy : s.terminalContainment = true ∨ options.attempts ≤ s.attemptsUsed := by
      by_cases hset : s.terminalContainment = true
      · exact .inl hset
      · have hclear : s.terminalContainment = false := by simpa using hset
        exact .inr (by by_contra hlt; exact hnone ⟨hclear, by omega⟩)
    exact (hexits hwhy).keeps hkeeps

lemma reportTerminal_sound {count : ℕ} (hinv : Within limit used s)
    (hused : options.attempts ≤ s.attemptsUsed) :
    TimerDoes args limit used
      (Split (fun s' runEnd => runEnd.Sound pid args options used s') fun _ _ => False)
      (args.reportTerminal pid options count) s := by
  refine (terminalRecoveryFailure_accounts hinv).bind (fun s1 reported hinv1 h1 => ?_)
    fun _ _ _ h => h.elim
  refine (setTerminalContainment_sets pid hinv1).bind (fun s2 _ hinv2 h2 => ?_)
    fun _ _ _ h => h.elim
  obtain ⟨s3, hkeeps, rfl⟩ := h2
  have hcount : s3.attemptsUsed = s.attemptsUsed := hkeeps.attemptsUsed.trans h1.1.attemptsUsed
  have hexits : Exits pid args options used s3 reported := h1.2.exits.keeps hkeeps
  refine retryOrExit_sound hinv2 (fun _ hlt => absurd hlt ?_) fun _ => hexits
  dsimp only; omega

lemma failedWhileOwned_sound {error : Failure} (hinv : Within limit used s)
    (hplain : error.isDurable = false) (hfails : Fails pid args s error) :
    TimerDoes args limit used
      (Split (fun s' runEnd => runEnd.Sound pid args options used s') fun _ _ => False)
      (args.failedWhileOwned pid options used error) s := by
  refine (countFailure_counts hinv hfails).bind (fun s1 count hinv1 h1 => ?_)
    fun _ _ _ h => h.elim
  obtain ⟨hcounted, hfails1, rfl⟩ := h1
  refine .ite (fun hused => reportTerminal_sound hinv1 hused) fun hmore => ?_
  refine retryOrExit_sound hinv1 (fun _ _ => .inr hcounted) fun hwhy => ?_
  cases hfails1.terminal (hwhy.resolve_right hmore) with
  | inl hlost => exact .inr (.inl hlost)
  | inr hother =>
    refine .inr (.inr (.inl (hother.resolve_right ?_)))
    simp [hplain]

lemma runFailed_sound {error : Failure} (hinv : Within limit used s)
    (hfails : Fails pid args s error) :
    TimerDoes args limit used
      (Split (fun s' runEnd => runEnd.Sound pid args options used s') fun _ _ => False)
      (args.runFailed pid options used error) s := by
  refine .ite (fun hdurable => ?_) fun hplain => ?_
  · refine (setTerminalContainment_sets pid hinv).bind (fun s1 _ hinv1 h1 => ?_)
      fun _ _ _ h => h.elim
    obtain ⟨s2, hkeeps, rfl⟩ := h1
    have hexits : Exits pid args options used s2 error :=
      (hfails.kept.exits hdurable).keeps hkeeps
    exact retryOrExit_sound hinv1 (fun hclear _ => by cases hclear) fun _ => hexits
  · refine (markerMatches_watches hinv).bind (fun s1 current hinv1 h1 => ?_)
      fun _ _ _ h => h.elim
    refine .ite (fun _ => ?_) fun hno => ?_
    · exact failedWhileOwned_sound hinv1 (by simpa using hplain) (hfails.keeps h1.1)
    · have hlost : Lost pid args s1 := h1.2 (by simpa using hno)
      exact retryOrExit_sound hinv1 (fun _ _ => .inl hlost) fun _ => .inr (.inl hlost)

theorem run_ends (pid : ℕ) (args : TimerArgs) (hbudget : s.attemptsUsed < options.attempts)
    (hrestores : s.restoreAttempts ≤ s.attemptsUsed) :
    TimerDoes args options.attempts s.attemptsUsed
      (Split (fun s' runEnd => runEnd.Sound pid args options s.attemptsUsed s') fun _ _ => False)
      (args.runRestoreTimerWithBudget pid options) s := by
  have hinv : Within options.attempts s.attemptsUsed s :=
    ⟨le_rfl, hrestores, hrestores.trans hbudget.le⟩
  refine (setTerminalContainment_sets pid hinv).bind (fun s1 _ hinv1 h1 => ?_)
    fun _ _ _ h => h.elim
  obtain ⟨s0, hkeeps0, rfl⟩ := h1
  have hsame0 := hkeeps0.attemptsUsed
  refine (readAttemptsUsed_reads pid hinv1).bind (fun s2 atEntry hinv2 h2 => ?_)
    fun _ _ _ h => h.elim
  obtain ⟨hkeeps, rfl⟩ := h2
  have hsame : s2.attemptsUsed = s.attemptsUsed := hkeeps.attemptsUsed.trans hsame0
  refine (runBody_kept hinv2 hkeeps.terminalContainment (by omega)).attempt_bind
    fun s3 r hinv3 h3 => ?_
  cases r with
  | ok runEnd => exact ⟨hinv3, h3⟩
  | error error => rw [hsame]; exact runFailed_sound hinv3 h3

end Parts

section Runs

variable (pid : ℕ) (args : TimerArgs) (options : TimerRuntimeOptions)

/-- A new run has not seen the owner of the rebuild yet. -/
def TimerHost.enter (s : TimerHost) : TimerHost := { s with leaseOwnerSeen := false }

/-- The states in which a run begins: with the whole budget, or after a run that has scheduled
the next one. -/
inductive Begins : TimerHost → Prop
  | first {s : TimerHost} : s.attemptsUsed = 0 → s.restoreAttempts = 0 → Begins s
  | again {s s' : TimerHost} {reason : TimerArgs.RescheduleReason} : Begins s →
    Ends (TimerCan args) s.enter (args.runRestoreTimerWithBudget pid options) s'
      (.ok (.rescheduled reason)) → Begins s'

variable {pid args options}

theorem begins_within {s : TimerHost} (h : Begins pid args options s) :
    s.attemptsUsed < options.attempts ∧ s.restoreAttempts ≤ s.attemptsUsed := by
  induction h with
  | first hused hrestores => have hpos := options.attempts_pos; omega
  | @again s s' reason _ hends ih =>
    obtain ⟨hbudget, hrestores⟩ := ih
    have hrun := run_ends (s := s.enter) pid args hbudget hrestores
    have hsound := hrun.ends hends
    have hwithin := hrun.passes hends.passes
    refine ⟨?_, hwithin.restores_le_used⟩
    cases reason <;> exact hsound.2

/-- Over all its runs the timer makes no more attempts to restore than the budget has. It exits
only with the shields recorded as up, without authority, with the sandbox contained, or with
the failure for which the gates stay; and it schedules a run without using the budget only
while the owner of the rebuild is alive. -/
theorem runRestoreTimer_ends {s : TimerHost} (h : Begins pid args options s) :
    (∀ s', Passes (TimerCan args) s.enter (args.runRestoreTimerWithBudget pid options) s' →
      s'.restoreAttempts ≤ options.attempts) ∧
    ∀ s' r, Ends (TimerCan args) s.enter (args.runRestoreTimerWithBudget pid options) s' r →
      ∃ runEnd, r = .ok runEnd ∧
        TimerArgs.RunEnd.Sound pid args options s.attemptsUsed s' runEnd := by
  obtain ⟨hbudget, hrestores⟩ := begins_within h
  have hrun := run_ends (s := s.enter) pid args hbudget hrestores
  refine ⟨fun s' hpasses => (hrun.passes hpasses).restores_le_limit, fun s' r hends => ?_⟩
  have hsound := hrun.ends hends
  cases r with
  | ok runEnd => exact ⟨runEnd, rfl, hsound⟩
  | error e => exact hsound.elim

def startedTimer : TimerArgs where
  snapshotPath := "policy-snapshot-0.yaml"
  restoreAt := ⟨"1970-01-01T00:05:00.000Z", some 300000⟩
  configPath := openclawTarget.configPath
  configDir := openclawTarget.configDir
  processToken := some "0123456789abcdef0123456789abcdef"
  allowLegacyHermesProtocol := false
  leaseOwner := none
  agentName := some "openclaw"

def startedMarker : TimerMarker where
  pid := 1
  snapshotPath := startedTimer.snapshotPath
  restoreAt := startedTimer.restoreAt
  processToken := startedTimer.processToken
  allowLegacyHermesProtocol := none
  agentName := startedTimer.agentName
  configPath := some startedTimer.configPath
  configDir := some startedTimer.configDir
  leaseOwner := none

def startedHost : TimerHost where
  marker := some startedMarker
  processes := fun _ => none
  containment := false
  contained := false
  attemptsUsed := 0
  restoreAttempts := 0
  recordedUp := false
  leaseOwnerSeen := false
  gatesHeld := false
  terminalContainment := false

/-- The snapshot is there, and the lock of the configuration fails. -/
def unlockableHost : Host where
  stateFile := .absent
  marker := some startedMarker
  transitions := fun _ => none
  snapshots := fun _ => some "restricted"
  policy := "permissive"
  configLocked := false
  lockConfirmed := false
  relaxRejected := false
  writeFailed := false

/-- The gate opens once a set-up has failed; no attempt succeeds. -/
def struggle (s : TimerHost) : (q : TimerCall) → TimerHost × q.Answer
  | .shields .readTimerMarker => (s, s.marker)
  | .shields (.writeStateFile state) | .shields (.replaceStateFile state) =>
    (s.record state, .ok ())
  | .shields (.isProcessAlive owner) => (s, (s.processes owner).isSome)
  | .shields (.readProcessStartIdentity owner) =>
    ({ s with leaseOwnerSeen := s.leaseOwnerSeen || (s.processes owner).any fun identity =>
        startedTimer.leaseOwner = some (owner, identity) }, (none : Option String))
  | .shields q => (s, (execute ⟨false, true, fun _ => false⟩ unlockableHost q).2)
  | .useAttempt => ({ s with attemptsUsed := s.attemptsUsed + 1 }, s.attemptsUsed + 1)
  | .readAttemptsUsed => (s, s.attemptsUsed)
  | .setTerminalContainment terminalContainment => ({ s with terminalContainment }, ())
  | .readTerminalContainment => (s, s.terminalContainment)
  | .prepareAutoRestoreTransitionTakeover => (s.begin, .ok ())
  | .enterTransitionLock | .leaveTransitionLock => (s, .ok ())
  | .containmentExists => (s, s.containment)
  | .beginCommittedContainment _ _ => (s.contain, .ok ())
  | .awaitDeadlineGate =>
    if s.attemptsUsed = 0 then (s, .error (.plain "EACCES: permission denied"))
    else ({ s with gatesHeld := true }, .ok .acquired)
  | .awaitMainOwner => (s, .ok .acquired)
  | .inspectContainment => (s, .ok s.containment)
  | .releaseGates => ({ s with gatesHeld := false }, .ok ())

lemma struggle_can (s : TimerHost) (q : TimerCall) (hs : s.containment → s.contained) :
    TimerCan startedTimer s q (struggle s q).1 (struggle s q).2 := by
  have hidle : Interferes startedTimer s s :=
    ⟨.inl rfl, by cases hc : s.containment <;> simp_all, rfl, rfl, rfl, rfl, rfl, rfl⟩
  refine ⟨s, hidle, ?_⟩
  cases q with
  | shields q =>
    cases q
    case readTimerMarker => exact ⟨rfl, rfl⟩
    case clearTimerMarker => exact .inl rfl
    case writeTimerMarkerAtomic => exact .inl rfl
    case cleanupOwnedTimerMarker => exact .inl rfl
    case removeStateFile => exact .inl rfl
    case isProcessAlive => exact ⟨rfl, rfl⟩
    case readProcessStartIdentity => exact ⟨.inr rfl, rfl⟩
    all_goals exact rfl
  | awaitDeadlineGate =>
    by_cases hfirst : s.attemptsUsed = 0
    · simp [struggle, hfirst, TimerCallDoes, Split]
    · simp [struggle, hfirst, TimerCallDoes, Split]
  | useAttempt => exact ⟨rfl, rfl⟩
  | readAttemptsUsed => exact ⟨rfl, rfl⟩
  | readTerminalContainment => exact ⟨rfl, rfl⟩
  | containmentExists => exact ⟨rfl, rfl⟩
  | prepareAutoRestoreTransitionTakeover => exact .inl rfl
  | awaitMainOwner => exact .inl rfl
  | inspectContainment => exact ⟨rfl, fun _ h => (Except.ok.inj h).symm⟩
  | releaseGates =>
    refine ⟨⟨false, rfl⟩, fun e he => ?_⟩
    cases he
  | setTerminalContainment => exact rfl
  | enterTransitionLock => exact rfl
  | leaveTransitionLock => exact rfl
  | beginCommittedContainment => exact rfl

/-- Where a run of the timer comes to, and how it ends. -/
def afterRun (s : TimerHost) : TimerHost × Except Failure TimerArgs.RunEnd :=
  (startedTimer.runRestoreTimerWithBudget 1 ⟨some 3⟩).finish struggle s.enter

lemma afterRun_ends {s : TimerHost} (h : (startedTimer.runRestoreTimerWithBudget 1 ⟨some 3⟩).Meets
    struggle (fun s _ => s.containment → s.contained) s.enter) :
    Ends (TimerCan startedTimer) s.enter (startedTimer.runRestoreTimerWithBudget 1 ⟨some 3⟩)
      (afterRun s).1 (afterRun s).2 := .of_finish struggle_can h

/-- The set-up failed once, and the next run is scheduled. -/
def retriedHost : TimerHost := (afterRun startedHost).1

lemma retriedHost_begins : Begins 1 startedTimer ⟨some 3⟩ retriedHost := by
  have hends := afterRun_ends (s := startedHost) (by decide +kernel)
  have hresult : (afterRun startedHost).2 = .ok (.rescheduled .failure) := by rfl
  rw [hresult] at hends; exact .again (.first rfl rfl) hends

/-- Two attempts to restore fail in the run after that; the budget is used up, and the sandbox
is contained when the process exits. -/
theorem runRestoreTimer_ends_contained :
    Ends (TimerCan startedTimer) retriedHost.enter
        (startedTimer.runRestoreTimerWithBudget 1 ⟨some 3⟩) (afterRun retriedHost).1
        (.ok (.exited 1 (some (durableMcpLifecycleContainmentFailure false
          (.plain (TimerArgs.recoveryFailed 3 ++
            ". Durable containment now blocks sandbox mutations")))))) ∧
      ((afterRun retriedHost).1.restoreAttempts, (afterRun retriedHost).1.contained) = (2, true) ∧
      (∀ s', Passes (TimerCan startedTimer) retriedHost.enter
        (startedTimer.runRestoreTimerWithBudget 1 ⟨some 3⟩) s' → s'.restoreAttempts ≤ 3) ∧
      ∀ s' r, Ends (TimerCan startedTimer) retriedHost.enter
          (startedTimer.runRestoreTimerWithBudget 1 ⟨some 3⟩) s' r →
        ∃ runEnd, r = .ok runEnd ∧ TimerArgs.RunEnd.Sound 1 startedTimer ⟨some 3⟩
          retriedHost.attemptsUsed s' runEnd := by
  have hends := afterRun_ends (s := retriedHost) (by decide +kernel)
  have hresult : (afterRun retriedHost).2 = .ok (.exited 1 (some
      (durableMcpLifecycleContainmentFailure false (.plain (TimerArgs.recoveryFailed 3 ++
        ". Durable containment now blocks sandbox mutations"))))) := by rfl
  rw [hresult] at hends
  exact ⟨hends, by decide +kernel, runRestoreTimer_ends retriedHost_begins⟩

end Runs


end NemoClaw.Shields
