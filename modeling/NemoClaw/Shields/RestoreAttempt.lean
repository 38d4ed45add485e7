import NemoClaw.Shields.RestoreTimer
import NemoClaw.Shields.ShieldsParts

/- An attempt to restore, while others take its authority away.

Another process may replace or remove the marker between any two calls of the timer, or
contain the sandbox; a marker that takes its place is of another generation, with a token
of its own. Every call of the timer may fail. The marker itself is read as it is.

What is provided:
  1. `TimerHost`, `TimerCan` — what a run of the timer can meet.
  2. `Keeps` — what most parts leave as it is, and that a marker that is lost stays lost.
  3. `attempt_ends` — an attempt is complete only if the shields were recorded as up, and
     revoked only if the marker is lost.
-/
namespace NemoClaw.Shields

open Js CallTree

structure TimerHost where
  marker : Option TimerMarker
  /-- the start identities of the processes that are there -/
  processes : ℕ → Option String
  containment : Bool
  /-- the sandbox was contained at some time -/
  contained : Bool
  attemptsUsed : ℕ
  /-- the attempts to restore that were begun -/
  restoreAttempts : ℕ
  /-- the last record of the timer says that the shields are up -/
  recordedUp : Bool
  /-- the owner of the rebuild was found alive -/
  leaseOwnerSeen : Bool
  /-- the lifecycle gates are kept -/
  gatesHeld : Bool
  /-- the variable of the run -/
  terminalContainment : Bool

namespace TimerHost

/-- A containment was committed. -/
def contain (s : TimerHost) : TimerHost := { s with containment := true, contained := true }

def begin (s : TimerHost) : TimerHost := { s with restoreAttempts := s.restoreAttempts + 1 }

def record (s : TimerHost) (state : ShieldsState) : TimerHost :=
  { s with recordedUp := state.shieldsDown = some false }

end TimerHost

section Can

variable (pid : ℕ) (args : TimerArgs)

def Lost (s : TimerHost) : Prop := args.markerRecordMatchesCurrentTimer pid s.marker = false

/-- What other processes do in between. -/
structure Interferes (s s' : TimerHost) : Prop where
  marker : s'.marker = s.marker ∨
    ∀ marker, s'.marker = some marker → marker.processToken ≠ args.processToken
  contained : s'.contained = (s.contained || s'.containment)
  attemptsUsed : s'.attemptsUsed = s.attemptsUsed
  restoreAttempts : s'.restoreAttempts = s.restoreAttempts
  recordedUp : s'.recordedUp = s.recordedUp
  leaseOwnerSeen : s'.leaseOwnerSeen = s.leaseOwnerSeen
  gatesHeld : s'.gatesHeld = s.gatesHeld
  terminalContainment : s'.terminalContainment = s.terminalContainment

def ShieldsCallDoes (s : TimerHost) : (q : Call) → TimerHost → q.Answer → Prop
  | .readTimerMarker, s', marker => s' = s ∧ marker = s.marker
  | .clearTimerMarker, s', _ => s' = s ∨ s' = { s with marker := none }
  | .writeTimerMarkerAtomic marker, s', _ => s' = s ∨ s' = { s with marker := some marker }
  | .cleanupOwnedTimerMarker _, s', _ => s' = s ∨ s' = { s with marker := none }
  | .writeStateFile state, s', answer | .replaceStateFile state, s', answer =>
    Split (fun s' (_ : Unit) => s' = s.record state)
      (fun s' (_ : Failure) => s' = s ∨ s' = s.record state) s' answer
  | .removeStateFile, s', _ => s' = s ∨ s' = { s with recordedUp := false }
  | .isProcessAlive owner, s', (alive : Bool) => s' = s ∧ alive = (s.processes owner).isSome
  | .readProcessStartIdentity owner, s', (identity : Option String) =>
    (identity = s.processes owner ∨ identity = none) ∧
      s' = { s with leaseOwnerSeen := s.leaseOwnerSeen || (s.processes owner).any fun identity =>
        args.leaseOwner = some (owner, identity) }
  | _, s', _ => s' = s

def ShieldsCallCan (s : TimerHost) (q : Call) (s' : TimerHost) (x : q.Answer) : Prop :=
  ∃ s1, Interferes args s s1 ∧ ShieldsCallDoes args s1 q s' x

/-- A durable failure says that the sandbox is contained, or that the gates have to stay; only what
fails under the gates may leave that open. -/
def TimerCallDoes (s : TimerHost) : (q : TimerCall) → TimerHost → q.Answer → Prop
  | .shields q, s', x => ShieldsCallDoes args s q s' x
  | .useAttempt, s', (attempt : ℕ) =>
    s' = { s with attemptsUsed := s.attemptsUsed + 1 } ∧ attempt = s.attemptsUsed + 1
  | .readAttemptsUsed, s', (used : ℕ) => s' = s ∧ used = s.attemptsUsed
  | .setTerminalContainment terminalContainment, s', _ => s' = { s with terminalContainment }
  | .readTerminalContainment, s', (terminal : Bool) => s' = s ∧ terminal = s.terminalContainment
  | .prepareAutoRestoreTransitionTakeover, s', _ => s' = s.begin ∨ s' = s.begin.contain
  | .enterTransitionLock, s', _ | .leaveTransitionLock, s', _ => s' = s
  | .containmentExists, s', (contained : Bool) => s' = s ∧ contained = s.containment
  | .beginCommittedContainment _ _, s', answer =>
    Split (fun s' (_ : Unit) => s' = s.contain)
      (fun s' (error : Failure) => (s' = s ∨ s' = s.contain) ∧
        ∀ message, error ≠ .durable message false) s' answer
  | .awaitDeadlineGate, s', answer =>
    Split (fun s' (event : GateEvent) =>
        s' = if event = .acquired then { s with gatesHeld := true } else s)
      (fun s' (error : Failure) => (s' = s ∨ s' = s.contain) ∧
        ∀ message, error = .durable message false → s'.contained) s' answer
  | .awaitMainOwner, s', _ => s' = s ∨ s' = s.contain
  | .inspectContainment, s', answer =>
    s' = s ∧ ∀ found, answer = .ok found → found = s.containment
  | .releaseGates, s', answer =>
    (∃ gatesHeld, s' = { s with gatesHeld }) ∧
      ∀ error, answer = .error error → error.isDurable = false

def TimerCan (s : TimerHost) (q : TimerCall) (s' : TimerHost) (x : q.Answer) : Prop :=
  ∃ s1, Interferes args s s1 ∧ TimerCallDoes args s1 q s' x

end Can

section Stays

variable {pid : ℕ} {args : TimerArgs} {s s' s'' : TimerHost}

structure Stays (pid : ℕ) (args : TimerArgs) (s s' : TimerHost) : Prop where
  attemptsUsed : s'.attemptsUsed = s.attemptsUsed
  restoreAttempts : s'.restoreAttempts = s.restoreAttempts
  gatesHeld : s'.gatesHeld = s.gatesHeld
  terminalContainment : s'.terminalContainment = s.terminalContainment
  contained : s.contained → s'.contained
  lost : Lost pid args s → Lost pid args s'
  leaseOwnerSeen : s.leaseOwnerSeen → s'.leaseOwnerSeen

structure Keeps (pid : ℕ) (args : TimerArgs) (s s' : TimerHost) : Prop
    extends Stays pid args s s' where
  recordedUp : s'.recordedUp = s.recordedUp

lemma Stays.refl : Stays pid args s s := ⟨rfl, rfl, rfl, rfl, id, id, id⟩

lemma Stays.trans (h : Stays pid args s s') (h' : Stays pid args s' s'') :
    Stays pid args s s'' where
  attemptsUsed := h'.attemptsUsed.trans h.attemptsUsed
  restoreAttempts := h'.restoreAttempts.trans h.restoreAttempts
  gatesHeld := h'.gatesHeld.trans h.gatesHeld
  terminalContainment := h'.terminalContainment.trans h.terminalContainment
  contained := fun hs => h'.contained (h.contained hs)
  lost := fun hs => h'.lost (h.lost hs)
  leaseOwnerSeen := fun hs => h'.leaseOwnerSeen (h.leaseOwnerSeen hs)

lemma Keeps.refl : Keeps pid args s s := ⟨.refl, rfl⟩

lemma Keeps.trans (h : Keeps pid args s s') (h' : Keeps pid args s' s'') :
    Keeps pid args s s'' :=
  ⟨h.toStays.trans h'.toStays, h'.recordedUp.trans h.recordedUp⟩

lemma Keeps.contain : Keeps pid args s s.contain := ⟨⟨rfl, rfl, rfl, rfl, fun _ => rfl, id, id⟩, rfl⟩

/-- A marker of another generation is not the one of the timer. -/
lemma lost_of_token (h : ∀ marker, s.marker = some marker →
    marker.processToken ≠ args.processToken) : Lost pid args s := by
  unfold Lost TimerArgs.markerRecordMatchesCurrentTimer
  cases hmarker : s.marker with
  | none => rfl
  | some marker => simp [h marker hmarker]

lemma Interferes.keeps (h : Interferes args s s') : Keeps pid args s s' where
  attemptsUsed := h.attemptsUsed
  restoreAttempts := h.restoreAttempts
  gatesHeld := h.gatesHeld
  terminalContainment := h.terminalContainment
  contained := fun hs => by simp [h.contained, hs]
  lost := by
    intro hlost
    cases h.marker with
    | inl hsame =>
      unfold Lost
      rw [hsame]; exact hlost
    | inr hother => exact lost_of_token hother
  leaseOwnerSeen := fun hs => h.leaseOwnerSeen.trans hs
  recordedUp := h.recordedUp

lemma Interferes.contained_of_containment (h : Interferes args s s')
    (hc : s'.containment) : s'.contained := by
  simp [h.contained, hc]

lemma Lost.of_none : Lost pid args { s with marker := none } := rfl

/-- The budget is kept, and no attempt was made out of it. -/
structure Within (limit used : ℕ) (s : TimerHost) : Prop where
  used_le : used ≤ s.attemptsUsed
  restores_le_used : s.restoreAttempts ≤ s.attemptsUsed
  restores_le_limit : s.restoreAttempts ≤ limit

lemma Within.stays {limit used : ℕ} (h : Within limit used s) (hs : Stays pid args s s') :
    Within limit used s' := by
  obtain ⟨hle, hrestores, hlimit⟩ := h
  rw [← hs.attemptsUsed] at hle
  rw [← hs.restoreAttempts] at hrestores hlimit
  rw [← hs.attemptsUsed] at hrestores; exact ⟨hle, hrestores, hlimit⟩

end Stays

def Call.Bystanding : Call → Prop
  | writeStateFile _ | replaceStateFile _ | removeStateFile | writeTimerMarkerAtomic _ => False
  | _ => True

section Bystanding

variable {pid : ℕ} {args : TimerArgs} {s s' : TimerHost} {α : Type} {t : Program α}
  {limit used : ℕ}

lemma Call.Passive.bystanding {q : Call} (h : q.Passive) : q.Bystanding := by
  cases q
  all_goals first
    | exact trivial
    | exact h

lemma Calls.bystanding (h : t.Calls Call.Passive) : t.Calls Call.Bystanding := by
  induction t with
  | done r => exact .done
  | call q k ih => exact ⟨h.1.bystanding, fun x => ih x (h.2 x)⟩

lemma ShieldsCallCan.keeps {q : Call} {x : q.Answer} (hq : q.Bystanding)
    (h : ShieldsCallCan args s q s' x) : Keeps pid args s s' := by
  obtain ⟨s1, hother, hdoes⟩ := h
  refine hother.keeps.trans ?_
  cases q
  case clearTimerMarker =>
    cases hdoes with
    | inl heq => exact heq ▸ .refl
    | inr heq => exact heq ▸ ⟨⟨rfl, rfl, rfl, rfl, id, fun _ => .of_none, id⟩, rfl⟩
  case cleanupOwnedTimerMarker =>
    cases hdoes with
    | inl heq => exact heq ▸ .refl
    | inr heq => exact heq ▸ ⟨⟨rfl, rfl, rfl, rfl, id, fun _ => .of_none, id⟩, rfl⟩
  case readProcessStartIdentity owner =>
    obtain ⟨-, rfl⟩ := hdoes
    exact ⟨⟨rfl, rfl, rfl, rfl, id, id, fun h => by simp [h]⟩, rfl⟩
  all_goals first
    | exact hq.elim
    | exact hdoes.1 ▸ Keeps.refl
    | exact hdoes ▸ Keeps.refl

abbrev ShieldsDoes (args : TimerArgs) (limit used : ℕ)
    (post : TimerHost → Except Failure α → Prop) (t : Program α) (s : TimerHost) : Prop :=
  Always (ShieldsCallCan args) (Within limit used) post t s

lemma bystanding (pid : ℕ) (ht : t.Calls Call.Bystanding) (hinv : Within limit used s) :
    ShieldsDoes args limit used (fun s' _ => Keeps pid args s s') t s :=
  Always.of_calls ht (fun _ hs => hinv.stays hs.toStays)
    (fun _ _ _ _ hq hcan hs => hs.trans (ShieldsCallCan.keeps hq hcan)) .refl

lemma runtimePolicy_bystanding {path : String} {keys : Option (List String)}
    {deadline : Bool} : (runtimePolicy path keys deadline).Calls Call.Bystanding := by
  have hread : (readSnapshot path).Calls Call.Bystanding := .bind (.ask trivial) fun _ => .done
  cases deadline with
  | true =>
    exact .bind (.ask trivial) fun _ => .bind hread fun _ => .bind (.ask trivial) fun _ => .done
  | false =>
  cases keys with
  | some keys =>
    exact .bind (.bind (.ask trivial) fun _ => .done) fun _ => .bind hread fun _ =>
      .bind (.ask trivial) fun _ => .done
  | none => exact .bind hread fun _ => .bind (.bind (.ask trivial) fun _ => .done) fun _ => .done

lemma applyShieldsPolicySnapshot_bystanding {path : String} {options : RestoreOptions} :
    (applyShieldsPolicySnapshot pid path options).Calls Call.Bystanding :=
  .bind (.ask trivial) fun _ => .bind (Calls.bystanding restoreTransition_calls) fun _ =>
    .bind (Calls.bystanding checkDeadlineAuthority_calls) fun _ => .bind .done fun _ =>
      .bind runtimePolicy_bystanding fun _ => .ask trivial

lemma restoreAfterHandoff_bystanding {token : String} {transition : ShieldsDownTransition}
    {expired retain : Bool} :
    (restoreAfterHandoff pid token transition expired retain).Calls Call.Bystanding :=
  .bind (.ask trivial) fun _ => .bind applyShieldsPolicySnapshot_bystanding fun _ =>
    .bind .done fun _ => .ite (fun _ => .done) fun _ => .ask trivial

lemma synchronizeAutoRestoreTransition_bystanding {token path : String}
    {expired retain : Bool} :
    (synchronizeAutoRestoreTransition pid token path expired retain).Calls Call.Bystanding := by
  refine .bind (.bind (.ask trivial) fun _ => .done) fun transition => ?_
  cases transition with
  | none => exact .done
  | some transition => exact .ite (fun _ => .done) fun _ => restoreAfterHandoff_bystanding

lemma synchronizeAutoRestoreWithShieldsDown_bystanding :
    (synchronizeAutoRestoreWithShieldsDown pid).Calls Call.Bystanding := by
  refine .bind (.ask trivial) fun marker => ?_
  cases marker with
  | none => exact .done
  | some marker =>
  dsimp only
  cases marker.takeoverToken with
  | none => exact .done
  | some token =>
    exact .ite (fun _ => .done) fun _ => synchronizeAutoRestoreTransition_bystanding

lemma lockAgentConfig_bystanding {target : AgentConfigTarget} {rollback allow : Bool}
    {cached : Option HermesShieldsProtocol} :
    (lockAgentConfig pid target rollback allow cached).Calls Call.Bystanding :=
  .bind (Calls.bystanding resolveHermesShieldsProtocol_calls) fun _ =>
    .bind synchronizeAutoRestoreWithShieldsDown_bystanding fun _ =>
      .bind (.ask trivial) fun _ => .done

lemma relockAndReconfirm_bystanding {lock : Program LockResult} {lastError : Failure} {n : ℕ}
    (hlock : lock.Calls Call.Bystanding) :
    (relockAndReconfirm lock lastError n).Calls Call.Bystanding := by
  induction n generalizing lastError with
  | zero => exact .done
  | succ n ih =>
    refine .bind hlock.attempt fun applied => ?_
    cases applied with
    | error e => exact .done
    | ok _ =>
    refine .bind hlock.attempt fun confirmed => ?_
    cases confirmed with
    | ok result => exact .done
    | error e => exact ih

end Bystanding

/-! ## An attempt -/

section Attempt

variable {pid : ℕ} {args : TimerArgs} {s s' : TimerHost} {limit used : ℕ} {token : String}

/-- Whatever comes of a part that reads the marker: it stays, and it is lost where it says so. -/
abbrev Watching {α : Type} (pid : ℕ) (args : TimerArgs) (s : TimerHost) (gone : α → Prop) :
    TimerHost → Except Failure α → Prop :=
  Split (fun s' a => Keeps pid args s s' ∧ (gone a → Lost pid args s')) fun s' _ =>
    Keeps pid args s s'

lemma Watching.after {α : Type} {gone : α → Prop} {s'' : TimerHost} {r : Except Failure α}
    (h : Keeps pid args s s') (hr : Watching pid args s' gone s'' r) :
    Watching pid args s gone s'' r := by
  cases r with
  | ok a => exact ⟨h.trans hr.1, hr.2⟩
  | error e => exact h.trans hr

lemma readTimerMarker_sees (pid : ℕ) (hinv : Within limit used s) :
    ShieldsDoes args limit used
      (Split (fun s' marker => Keeps pid args s s' ∧ marker = s'.marker) fun _ _ => False)
      readTimerMarker s := by
  refine Always.ask hinv fun s' marker hcan => ?_
  have hquiet : Call.readTimerMarker.Bystanding := trivial
  have hkeeps : Keeps pid args s s' := ShieldsCallCan.keeps hquiet hcan
  obtain ⟨s1, -, heq, hmarker⟩ := hcan
  exact ⟨hinv.stays hkeeps.toStays, hkeeps, heq.symm ▸ hmarker⟩

section

variable (hinv : Within limit used s)
include hinv

lemma markerMatchesCurrentTimer_watches :
    ShieldsDoes args limit used
      (Split (fun s' current => Keeps pid args s s' ∧ (current = false → Lost pid args s'))
        fun _ _ => False)
      (args.markerMatchesCurrentTimer pid) s := by
  refine (readTimerMarker_sees pid hinv).bind (fun s1 marker hinv1 h1 => ?_)
    fun _ _ _ h => h.elim
  obtain ⟨hkeeps, rfl⟩ := h1; exact ⟨hinv1, hkeeps, id⟩

lemma Watching.check {α : Type} {gone : α → Prop} {no : α} {t : Program α}
    (ht : ∀ s', Keeps pid args s s' → Within limit used s' →
      ShieldsDoes args limit used (Watching pid args s' gone) t s') :
    ShieldsDoes args limit used (Watching pid args s gone)
      ((args.markerMatchesCurrentTimer pid).bind fun current =>
        if ¬current then pure no else t) s := by
  refine (markerMatchesCurrentTimer_watches hinv).bind (fun s1 current hinv1 h1 => ?_)
    fun _ _ _ h => h.elim
  refine .ite (fun hno => ⟨hinv1, h1.1, fun _ => h1.2 (by simpa using hno)⟩) fun _ => ?_
  exact (ht s1 h1.1 hinv1).mono fun _ _ _ h => h.after h1.1

lemma lockTarget_watches {target : AgentConfigTarget} :
    ShieldsDoes args limit used (Watching pid args s (· = .revoked))
      (args.lockTarget pid target) s := by
  refine Watching.check hinv fun s1 _ hinv1 => ?_
  refine (bystanding pid (relockAndReconfirm_bystanding lockAgentConfig_bystanding) hinv1).bind
    (fun s2 relocked hinv2 h2 => ?_) fun s2 e _ h2 => h2
  cases relocked <;> exact ⟨hinv2, h2, nofun⟩

lemma lockConfig_watches :
    ShieldsDoes args limit used (Watching pid args s (· = .revoked)) (args.lockConfig pid) s := by
  refine .ite (fun _ => ⟨hinv, .refl, nofun⟩) fun _ => ?_
  refine (bystanding pid (Calls.bystanding resolvePersistedAutoRestoreTarget_calls) hinv).bind
    (fun s1 target hinv1 h1 => ?_) fun s1 e _ h1 => h1
  cases target with
  | none => exact ⟨hinv1, h1, nofun⟩
  | some target => exact (lockTarget_watches hinv1).mono fun _ _ _ h => h.after h1

end

/-- The check at the end of an attempt asks for less than the marker's whole record. -/
lemma Lost.of_unmatched (htoken : args.processToken = some token)
    (h : ¬s.marker.any fun marker => marker.pid = pid && marker.processToken = some token &&
      marker.snapshotPath = args.snapshotPath) : Lost pid args s := by
  refine Bool.eq_false_iff.mpr fun hmatch => h ?_
  obtain ⟨marker, hmarker, hm⟩ := (Option.any_eq_true _ _).mp hmatch
  refine (Option.any_eq_true _ _).mpr ⟨marker, hmarker, ?_⟩
  simp only [Bool.and_eq_true, decide_eq_true_eq, htoken] at hm ⊢
  tauto

lemma completeAutoRestoreTransition_watches (htoken : args.processToken = some token)
    (hinv : Within limit used s) :
    ShieldsDoes args limit used (Watching pid args s (· = false))
      (args.completeAutoRestoreTransition pid token) s := by
  have hread : (readShieldsDownTransition token).Calls Call.Bystanding := .ask trivial
  have hclear : (clearShieldsDownTransition token).Calls Call.Bystanding := .ask trivial
  refine (readTimerMarker_sees pid hinv).bind (fun s1 marker hinv1 h1 => ?_)
    fun _ _ _ h => h.elim
  obtain ⟨hkeeps, rfl⟩ := h1
  refine .ite (fun _ => ?_) fun hmatch => ⟨hinv1, hkeeps, fun _ => .of_unmatched htoken hmatch⟩
  refine (bystanding pid hread hinv1).bind (fun s2 transition hinv2 h2 => ?_)
    fun s2 e _ h2 => hkeeps.trans h2
  refine Always.lift hinv2 (fun _ _ => ?_) fun e _ => hkeeps.trans h2
  refine (bystanding pid hclear hinv2).bind (fun s3 _ hinv3 h3 => ?_)
    fun s3 e _ h3 => hkeeps.trans (h2.trans h3)
  exact ⟨hinv3, hkeeps.trans (h2.trans h3), nofun⟩

lemma Stays.record {state : ShieldsState} : Stays pid args s (s.record state) :=
  ⟨rfl, rfl, rfl, rfl, id, id, id⟩

/-- What an update of the state file leaves: the shields are recorded as the patch says. -/
abbrev Recording {α : Type} (pid : ℕ) (args : TimerArgs) (s : TimerHost) (up : α → Prop) :
    TimerHost → Except Failure α → Prop :=
  Split (fun s' a => Stays pid args s s' ∧ (up a → s'.recordedUp)) fun s' _ =>
    Stays pid args s s'

lemma replaceStateFile_records (pid : ℕ) {state : ShieldsState} (hinv : Within limit used s) :
    ShieldsDoes args limit used
      (Recording pid args s fun _ => state.shieldsDown = some false)
      (TimerArgs.replaceStateFile state) s := by
  refine ⟨hinv, fun s' answer hcan => ?_⟩
  obtain ⟨s1, hother, hdoes⟩ := hcan
  have hstays : Stays pid args s s1 := hother.keeps.toStays
  cases answer with
  | ok _ =>
    have heq : s' = s1.record state := hdoes
    subst heq
    have hafter : Stays pid args s (s1.record state) := hstays.trans .record
    exact ⟨hinv.stays hafter, hafter, fun hup => by simp [TimerHost.record, hup]⟩
  | error e =>
    have hafter : Stays pid args s s' := by
      cases hdoes with
      | inl heq => exact heq ▸ hstays
      | inr heq => exact heq ▸ hstays.trans .record
    exact ⟨hinv.stays hafter, hafter⟩

lemma updateState_records (pid : ℕ) {patch : ShieldsPatch} (hinv : Within limit used s) :
    ShieldsDoes args limit used
      (Recording pid args s fun _ => patch.shieldsDown = some false)
      (TimerArgs.updateState patch) s := by
  have hread : (Tree.ask (Call.readStateFile (.timer patch)) : Program StateFile).Calls
      Call.Bystanding := .ask trivial
  have hnow : now.Calls Call.Bystanding := .ask trivial
  refine (bystanding pid hread hinv).bind (fun s1 current hinv1 h1 => ?_)
    fun s1 e _ h1 => h1.toStays
  refine (bystanding pid hnow hinv1).bind (fun s2 time hinv2 h2 => ?_)
    fun s2 e _ h2 => (h1.trans h2).toStays
  refine (replaceStateFile_records pid hinv2).mono fun s3 r _ h3 => ?_
  have hstays := (h1.trans h2).toStays
  cases r with
  | ok _ => exact ⟨hstays.trans h3.1, fun hup => h3.2 (by simp [ShieldsPatch.apply, hup])⟩
  | error e => exact hstays.trans h3

/-- What comes of an attempt, or of what is left of it. -/
abbrev Attempted (pid : ℕ) (args : TimerArgs) (s : TimerHost) :
    TimerHost → Except Failure RestoreAttemptOutcome → Prop :=
  Split (fun s' outcome => Stays pid args s s' ∧ (outcome = .complete → s'.recordedUp) ∧
    (outcome = .revoked → Lost pid args s')) fun s' _ => Stays pid args s s'

lemma Attempted.after {s'' : TimerHost} {r : Except Failure RestoreAttemptOutcome}
    (h : Stays pid args s s') (hr : Attempted pid args s' s'' r) : Attempted pid args s s'' r := by
  cases r with
  | ok outcome => exact ⟨h.trans hr.1, hr.2⟩
  | error e => exact h.trans hr

lemma Attempted.of_retry (h : Stays pid args s s') :
    Attempted pid args s s' (.ok .retry) := ⟨h, nofun, nofun⟩

lemma Attempted.of_revoked (h : Stays pid args s s') (hlost : Lost pid args s') :
    Attempted pid args s s' (.ok .revoked) := ⟨h, nofun, fun _ => hlost⟩

lemma Attempted.check {t : Program RestoreAttemptOutcome} (hinv : Within limit used s)
    (ht : ∀ s', Within limit used s' →
      ShieldsDoes args limit used (Attempted pid args s') t s') :
    ShieldsDoes args limit used (Attempted pid args s)
      ((args.markerMatchesCurrentTimer pid).bind fun current =>
        if ¬current then pure .revoked else t) s := by
  refine (markerMatchesCurrentTimer_watches hinv).bind (fun s1 current hinv1 h1 => ?_)
    fun _ _ _ h => h.elim
  refine .ite (fun hno => ⟨hinv1, .of_revoked h1.1.toStays (h1.2 (by simpa using hno))⟩)
    fun _ => ?_
  exact (ht s1 hinv1).mono fun _ _ _ h => h.after h1.1.toStays

section

variable (htoken : args.processToken = some token)
include htoken

section

variable (hinv : Within limit used s)
include hinv

lemma recordAutoRestore_attempted {lock : Option LockResult} :
    ShieldsDoes args limit used (Attempted pid args s)
      (args.recordAutoRestore pid token lock) s := by
  refine (updateState_records pid hinv).bind (fun s1 _ hinv1 h1 => ?_)
    fun s1 e _ h1 => h1
  have hup : s1.recordedUp := h1.2 rfl
  refine (completeAutoRestoreTransition_watches htoken hinv1).bind
    (fun s2 completed hinv2 h2 => ?_) fun s2 e _ h2 => h1.1.trans h2.toStays
  have hstays := h1.1.trans h2.1.toStays
  refine .ite (fun hno => ⟨hinv2, .of_revoked hstays (h2.2 (by simpa using hno))⟩) fun _ => ?_
  have hclean : (args.cleanupOwnedTimerMarker).Calls Call.Bystanding :=
    .bind (.ask trivial) fun _ => .done
  refine (bystanding pid hclean hinv2).bind (fun s3 _ hinv3 h3 => ?_)
    fun s3 e _ h3 => hstays.trans h3.toStays
  -- the marker goes after the record, so the record is there
  exact ⟨hinv3, hstays.trans h3.toStays,
    fun _ => (h3.recordedUp.trans h2.1.recordedUp).trans hup, nofun⟩

lemma record_attempted {relocked : TimerArgs.Relocked}
    (hrevoked : relocked = .revoked → Lost pid args s) :
    ShieldsDoes args limit used (Attempted pid args s) (args.record pid token relocked) s := by
  cases relocked with
  | revoked => exact ⟨hinv, .of_revoked .refl (hrevoked rfl)⟩
  | verified lock => exact Attempted.check hinv fun s1 hinv1 =>
      recordAutoRestore_attempted htoken hinv1
  | unverified =>
    refine Attempted.check hinv fun s1 hinv1 => ?_
    refine (updateState_records pid hinv1).bind (fun s2 _ hinv2 h2 => ?_)
      fun s2 e _ h2 => h2
    exact ⟨hinv2, .of_retry h2.1⟩

lemma relockAfterRestore_attempted :
    ShieldsDoes args limit used (Attempted pid args s) (args.relockAfterRestore pid token) s := by
  refine Attempted.check hinv fun s1 hinv1 => ?_
  refine (lockConfig_watches hinv1).bind (fun s2 relocked hinv2 h2 => ?_)
    fun s2 e _ h2 => h2.toStays
  exact (record_attempted htoken hinv2 h2.2).mono fun _ _ _ h => h.after h2.1.toStays

/-- A complete attempt has the shields recorded as up, and a revoked one has lost the marker. -/
theorem attempt_ends :
    ShieldsDoes args limit used (Attempted pid args s) (args.attempt pid token) s := by
  refine Attempted.check hinv fun s1 hinv1 => ?_
  have hexists : (snapshotExists args.snapshotPath).Calls Call.Bystanding := .ask trivial
  refine (bystanding pid hexists hinv1).bind (fun s2 present hinv2 h2 => ?_)
    fun s2 e _ h2 => h2.toStays
  refine .ite (fun _ => ⟨hinv2, .of_retry h2.toStays⟩) fun _ => ?_
  refine (bystanding pid applyShieldsPolicySnapshot_bystanding hinv2).bind
    (fun s3 status hinv3 h3 => ?_) fun s3 e _ h3 => (h2.trans h3).toStays
  refine .ite (fun _ => ⟨hinv3, .of_retry (h2.trans h3).toStays⟩) fun _ => ?_
  exact (relockAfterRestore_attempted htoken hinv3).mono
    fun _ _ _ h => h.after (h2.trans h3).toStays

end

end

end Attempt

end NemoClaw.Shields
