import NemoClaw.Blueprint.Runner

/- What an apply has noted as created, and what there is.

What is proved:
  1. `Kept` — what the apply has noted as created is its own or gone; where OpenShell is
     strict, whatever is its own is noted. `Kept.create`, `Kept.remove` and the like say
     what each change keeps.
  2. `Does` — a part of a program, with what holds where it ends, and its rules.
  3. `Looks` — parts that only look, which are most of an apply.
  4. `exec_creates`, `exec_removes`, `exec_detaches` — what a command that succeeds, or
     finds nothing there, leaves behind.
-/
namespace NemoClaw.Runner

open Js CallTree List Option

inductive Flagged (b : Blueprint) (v : Vars) : Resource → Prop where
  | sandbox (h : v.sandboxCreatedByApply) : Flagged b v (.sandbox b.sandboxName)
  | inferenceProvider (h : v.inferenceProviderCreatedByApply) :
    Flagged b v (.provider b.providerName)
  | identityProvider (receipt : RuntimeIdentityReceipt)
    (hreceipt : v.runtimeIdentityReceipt = some receipt) (h : receipt.providerCreated) :
    Flagged b v (.provider receipt.providerName)

/-- The variables note the attachment as made by the apply. -/
inductive FlaggedAttachment (b : Blueprint) (v : Vars) : String → String → Prop where
  | intro (receipt : RuntimeIdentityReceipt)
    (hreceipt : v.runtimeIdentityReceipt = some receipt) (h : receipt.attachmentCreated) :
    FlaggedAttachment b v b.sandboxName receipt.providerName

def ReceiptOf (b : Blueprint) (receipt : RuntimeIdentityReceipt) : Prop :=
  ∃ config, b.identity = some config ∧ receipt.providerType = config.providerType ∧
    receipt.providerName = config.providerName ∧ receipt.credentialKey = config.credentialKey ∧
    receipt.isExact

/-- Nothing has been created in the name of the run. -/
def Fresh (strict : Bool) (r : RunId) (w : World) : Prop :=
  (∀ x, w.origin x ≠ some (.run r)) ∧
    (strict → ∀ s p, w.attached s p ≠ some (.run r))

/-- What the apply has noted is its own or gone again, and what there was before is still
there. Where OpenShell is strict, all that is its own is noted. -/
structure Kept (strict : Bool) (r : RunId) (b : Blueprint) (s0 : State) (w : World) (v : Vars)
    (removed : List (RunId × Resource)) : Prop where
  flagged : ∀ x, Flagged b v x →
    w.origin x = some (.run r) ∨ w.origin x = none ∧ (r, x) ∈ removed
  kept : ∀ x c, s0.world.origin x = some c → w.origin x = some c
  only : ∀ x c, w.origin x = some c → c = .run r ∨ s0.world.origin x = some c
  removedOwn : ∀ e ∈ removed, e.1 = r ∨ e ∈ s0.removed
  removedKept : ∀ e ∈ s0.removed, e ∈ removed
  receipt : ∀ receipt, v.runtimeIdentityReceipt = some receipt → ReceiptOf b receipt
  known : strict → ∀ x, w.origin x = some (.run r) → Flagged b v x
  flaggedAttachment : strict → ∀ s p, FlaggedAttachment b v s p →
    w.attached s p = some (.run r) ∨ w.attached s p = none
  keptAttachment : strict → ∀ s p c, s0.world.attached s p = some c →
    w.attached s p = some c
  knownAttachment : strict → ∀ s p, w.attached s p = some (.run r) →
    FlaggedAttachment b v s p

section Kept

variable {strict : Bool} {r : RunId} {b : Blueprint} {s0 : State} {w : World} {v v' : Vars}
  {removed : List (RunId × Resource)} {x : Resource}

lemma Kept.not_before (h : Kept strict r b s0 w v removed) (hfresh : Fresh strict r s0.world)
    (hx : Flagged b v x) : s0.world.origin x = none := by
  cases hbefore : s0.world.origin x with
  | none => rfl
  | some c =>
  have hkept := h.kept x c hbefore
  rcases h.flagged x hx with hown | ⟨hgone, -⟩
  · rw [hkept] at hown
    rw [some.inj hown] at hbefore; exact absurd hbefore (hfresh.1 x)
  · rw [hkept] at hgone; cases hgone

lemma Kept.only_create (h : Kept strict r b s0 w v removed) {y : Resource} {c : Origin}
    (hy : (w.create x (.run r)).origin y = some c) : c = .run r ∨ s0.world.origin y = some c := by
  rw [World.create_origin] at hy
  split at hy
  · exact .inl (some.inj hy).symm
  · exact h.only y c hy

/-- A creation that is refused or comes to nothing, or that is not noted although it came
to something. -/
lemma Kept.create_unnoted (h : Kept false r b s0 w v removed) (x : Resource) :
    Kept false r b s0 (w.create x (.run r)) v removed where
  flagged := by
    intro y hy
    rw [World.create_origin]
    split
    · exact .inl rfl
    · exact h.flagged y hy
  kept := fun y c hy => World.create_origin_some (h.kept y c hy)
  only := fun y c hy => h.only_create hy
  removedOwn := h.removedOwn
  removedKept := h.removedKept
  receipt := h.receipt
  known := nofun
  flaggedAttachment := nofun
  keptAttachment := nofun
  knownAttachment := nofun

section

variable (h : Kept strict r b s0 w v removed)
include h

theorem Kept.create (habsent : w.origin x = none)
    (hreceipt : ∀ receipt, v'.runtimeIdentityReceipt = some receipt → ReceiptOf b receipt)
    (hflagged : ∀ y, Flagged b v' y ↔ Flagged b v y ∨ y = x)
    (hattachment : ∀ s p, FlaggedAttachment b v' s p ↔ FlaggedAttachment b v s p) :
    Kept strict r b s0 (w.create x (.run r)) v' removed where
  flagged := by
    intro y hy
    rw [World.create_origin]
    split
    · exact .inl rfl
    next hne =>
    refine h.flagged y ((hflagged y).mp hy |>.resolve_right ?_)
    rintro rfl; exact hne ⟨rfl, habsent⟩
  kept := fun y c hy => World.create_origin_some (h.kept y c hy)
  only := fun y c hy => h.only_create hy
  removedOwn := h.removedOwn
  removedKept := h.removedKept
  receipt := hreceipt
  known := by
    intro hs y hy
    rw [World.create_origin] at hy
    split at hy
    · next heq => exact (hflagged y).mpr (.inr heq.1)
    · exact (hflagged y).mpr (.inl (h.known hs y hy))
  flaggedAttachment := by
    intro hs s p hsp
    rw [World.create_attached]; exact h.flaggedAttachment hs s p ((hattachment s p).mp hsp)
  keptAttachment := by
    intro hs s p c hsp
    rw [World.create_attached]; exact h.keptAttachment hs s p c hsp
  knownAttachment := by
    intro hs s p hsp
    rw [World.create_attached] at hsp
    exact (hattachment s p).mpr (h.knownAttachment hs s p hsp)

theorem Kept.remove (hfresh : Fresh strict r s0.world) (hx : Flagged b v x) :
    Kept strict r b s0 (w.remove x) v
      ((((some x).filter fun y => (w.origin y).isSome).map fun y => (r, y)).toList ++ removed) where
  flagged := by
    intro y hy
    by_cases heq : y = x
    · subst heq
      refine .inr ⟨World.remove_origin_self w y, ?_⟩
      rcases h.flagged y hy with hown | ⟨hgone, hremoved⟩
      · simp [hown]
      · exact mem_append_right _ hremoved
    · rw [World.remove_origin_of_ne heq]
      rcases h.flagged y hy with hown | ⟨hgone, hremoved⟩
      · exact .inl hown
      · exact .inr ⟨hgone, mem_append_right _ hremoved⟩
  kept := by
    intro y c hy
    have hne : y ≠ x := by
      rintro rfl
      rw [h.not_before hfresh hx] at hy; cases hy
    rw [World.remove_origin_of_ne hne]; exact h.kept y c hy
  only := by
    intro y c hy
    by_cases heq : y = x
    · rw [heq, World.remove_origin_self] at hy; cases hy
    · rw [World.remove_origin_of_ne heq] at hy; exact h.only y c hy
  removedOwn := by
    intro e he
    rcases mem_append.mp he with he | he
    · rw [mem_toList, map_eq_some_iff] at he
      obtain ⟨y, -, rfl⟩ := he; exact .inl rfl
    · exact h.removedOwn e he
  removedKept := fun e he => mem_append_right _ (h.removedKept e he)
  receipt := h.receipt
  known := by
    intro hs y hy
    by_cases heq : y = x
    · rw [heq]; exact hx
    · rw [World.remove_origin_of_ne heq] at hy; exact h.known hs y hy
  flaggedAttachment := by
    intro hs s p hsp
    cases hattached : (w.remove x).attached s p with
    | none => exact .inr rfl
    | some c =>
      rw [← World.attached_of_remove hattached]; exact h.flaggedAttachment hs s p hsp
  keptAttachment := by
    intro hs s p c hsp
    have hends := s0.world.ends s p (by simp [hsp])
    have hbefore := h.not_before hfresh hx
    rw [World.remove_attached]
    · exact h.keptAttachment hs s p c hsp
    · rintro rfl; exact hends.1 hbefore
    · rintro rfl; exact hends.2 hbefore
  knownAttachment := fun hs s p hsp => h.knownAttachment hs s p (World.attached_of_remove hsp)

/-- What is gone need not be noted any more. -/
lemma Kept.forget
    (hreceipt : ∀ receipt, v'.runtimeIdentityReceipt = some receipt → ReceiptOf b receipt)
    (hflagged : ∀ y, Flagged b v' y → Flagged b v y)
    (hgone : strict → ∀ y, Flagged b v y → Flagged b v' y ∨ w.origin y = none)
    (hattachment : ∀ s p, FlaggedAttachment b v' s p → FlaggedAttachment b v s p)
    (hdetached : strict → ∀ s p, FlaggedAttachment b v s p →
      FlaggedAttachment b v' s p ∨ w.attached s p = none) :
    Kept strict r b s0 w v' removed where
  flagged := fun y hy => h.flagged y (hflagged y hy)
  kept := h.kept
  only := h.only
  removedOwn := h.removedOwn
  removedKept := h.removedKept
  receipt := hreceipt
  known := by
    intro hs y hy
    refine (hgone hs y (h.known hs y hy)).resolve_right fun hnone => ?_
    rw [hnone] at hy; cases hy
  flaggedAttachment := fun hs s p hsp => h.flaggedAttachment hs s p (hattachment s p hsp)
  keptAttachment := h.keptAttachment
  knownAttachment := by
    intro hs s p hsp
    refine (hdetached hs s p (h.knownAttachment hs s p hsp)).resolve_right fun hnone => ?_
    rw [hnone] at hsp; cases hsp

lemma Kept.attach {sandbox provider : String}
    (hrefused : (Command.attach sandbox provider).refused w = false)
    (hreceipt : ∀ receipt, v'.runtimeIdentityReceipt = some receipt → ReceiptOf b receipt)
    (hflagged : ∀ y, Flagged b v' y ↔ Flagged b v y)
    (hattachment : ∀ s p, FlaggedAttachment b v' s p ↔ FlaggedAttachment b v s p ∨ s = sandbox ∧
      p = provider) :
    Kept strict r b s0 (w.attach sandbox provider (.run r)) v' removed := by
  simp only [Command.refused, Bool.or_eq_false_iff, isNone_eq_false_iff,
    isSome_eq_false_iff, isNone_iff_eq_none, isSome_iff_ne_none] at hrefused
  obtain ⟨⟨hdetached, hsandbox⟩, hprovider⟩ := hrefused
  have hself : (w.attach sandbox provider (.run r)).attached sandbox provider = some (.run r) :=
    World.attach_attached_self hsandbox hprovider hdetached
  refine ⟨?_, ?_, ?_, h.removedOwn, h.removedKept, hreceipt, ?_, ?_, ?_, ?_⟩
  · intro y hy
    rw [World.attach_origin]; exact h.flagged y ((hflagged y).mp hy)
  · intro y c hy
    rw [World.attach_origin]; exact h.kept y c hy
  · intro y c hy
    rw [World.attach_origin] at hy; exact h.only y c hy
  · intro hs y hy
    rw [World.attach_origin] at hy; exact (hflagged y).mpr (h.known hs y hy)
  · intro hs s p hsp
    by_cases heq : s = sandbox ∧ p = provider
    · rw [heq.1, heq.2]; exact .inl hself
    · rw [World.attach_attached_of_ne heq]
      exact h.flaggedAttachment hs s p ((hattachment s p).mp hsp |>.resolve_right heq)
  · intro hs s p c hsp
    have hkept := h.keptAttachment hs s p c hsp
    have hne : ¬(s = sandbox ∧ p = provider) := by
      rintro ⟨rfl, rfl⟩
      rw [hdetached] at hkept; cases hkept
    rw [World.attach_attached_of_ne hne]; exact hkept
  · intro hs s p hsp
    by_cases heq : s = sandbox ∧ p = provider
    · exact (hattachment s p).mpr (.inr heq)
    · rw [World.attach_attached_of_ne heq] at hsp
      exact (hattachment s p).mpr (.inl (h.knownAttachment hs s p hsp))

end

/-- Attachments do not matter where OpenShell is not strict. -/
lemma Kept.attach_unnoted (h : Kept false r b s0 w v removed) (sandbox provider : String) :
    Kept false r b s0 (w.attach sandbox provider (.run r)) v removed := by
  refine ⟨?_, ?_, ?_, h.removedOwn, h.removedKept, h.receipt, nofun, nofun, nofun, nofun⟩
  · intro y hy
    rw [World.attach_origin]; exact h.flagged y hy
  · intro y c hy
    rw [World.attach_origin]; exact h.kept y c hy
  · intro y c hy
    rw [World.attach_origin] at hy; exact h.only y c hy

lemma Kept.detach (h : Kept strict r b s0 w v removed) (hfresh : Fresh strict r s0.world)
    {sandbox provider : String} (hx : FlaggedAttachment b v sandbox provider) :
    Kept strict r b s0 (w.detach sandbox provider) v removed := by
  refine ⟨h.flagged, h.kept, h.only, h.removedOwn, h.removedKept, h.receipt, h.known, ?_, ?_, ?_⟩
  · intro hs s p hsp
    by_cases heq : s = sandbox ∧ p = provider
    · rw [heq.1, heq.2]; exact .inr (World.detach_attached_self w sandbox provider)
    · rw [World.detach_attached_of_ne heq]; exact h.flaggedAttachment hs s p hsp
  · intro hs s p c hsp
    have hkept := h.keptAttachment hs s p c hsp
    have hne : ¬(s = sandbox ∧ p = provider) := by
      rintro ⟨rfl, rfl⟩
      rcases h.flaggedAttachment hs s p hx with hown | hnone
      · rw [hkept] at hown
        rw [some.inj hown] at hsp; exact hfresh.2 hs s p hsp
      · rw [hkept] at hnone; cases hnone
    rw [World.detach_attached_of_ne hne]; exact hkept
  · intro hs s p hsp
    by_cases heq : s = sandbox ∧ p = provider
    · rw [heq.1, heq.2, World.detach_attached_self] at hsp; cases hsp
    · rw [World.detach_attached_of_ne heq] at hsp; exact h.knownAttachment hs s p hsp

end Kept

/-! ## Parts of programs -/

section Does

variable {α β : Type} {strict : Bool} {cond : State → Call → Prop} {post post' : State →
  Except String α → Prop} {t : Prog α}
  {s : State} {r : RunId}

/-- The part ends where `post` holds, if its calls all meet the condition. -/
def Does (cond : State → Call → Prop) (post : State → Except String α → Prop) (t : Prog α)
    (s : State) : Prop :=
  Safe State.exec Eq cond (fun _ _ => True) post t s

/-- What the first of two parts has to end in. -/
def Then (cond : State → Call → Prop) (post : State → Except String β → Prop) (f : α → Prog β) :
    State → Except String α → Prop
  | s, .ok a => Does cond post (f a) s
  | s, .error e => post s (.error e)

/-- What a part has to end in whose errors are handled. -/
def OrElse (cond : State → Call → Prop) (post : State → Except String α → Prop)
    (g : String → Prog α) :
    State → Except String α → Prop
  | s, .ok a => post s (.ok a)
  | s, .error e => Does cond post (g e) s

namespace Does

lemma done {result : Except String α} (h : post s result) :
    Does cond post (.done result) s := by
  rintro s' rfl; exact h

lemma pure {a : α} (h : post s (.ok a)) : Does cond post (Pure.pure a) s := done h

lemma throw {e : String} (h : post s (.error e)) : Does cond post (MonadExcept.throw e) s :=
  done h

lemma lift {result : Except String α} (h : post s result) :
    Does cond post (Tree.lift result) s := done h

lemma mono (h : Does cond post t s) (himp : ∀ s r, post s r → post' s r) :
    Does cond post' t s := Safe.mono h himp

lemma seq {post : State → Except String β → Prop} {f : α → Prog β}
    (h : Does cond (Then cond post f) t s) : Does cond post (t >>= f) s :=
  Safe.bind (fun _ => rfl) h (fun _ _ hok => hok) (fun _ _ herror => herror)

lemma handle {g : String → Prog α} (h : Does cond (OrElse cond post g) t s) :
    Does cond post (tryCatch t g) s :=
  Safe.handle (fun _ => rfl) h (fun _ _ hok => hok) (fun _ _ herror => herror)

lemma ite {p : Prop} [Decidable p] {t' : Prog α} (hthen : p → Does cond post t s)
    (helse : ¬p → Does cond post t' s) : Does cond post (if p then t else t') s := by
  split
  · next hp => exact hthen hp
  · next hp => exact helse hp

lemma ask {q : Call} {post : State → Except String q.Answer → Prop}
    (h : cond s q → post (s.exec q).1 (.ok (s.exec q).2)) :
    Does cond post (Tree.ask q) s := by
  rintro s' rfl hhonest; exact ⟨trivial, done (h hhonest)⟩

lemma run {c : Command} {post : State → Except String Result → Prop}
    (h : cond s (.run r c) → post (s.exec (.run r c)).1 (.ok s.next.toResult)) :
    Does cond post (runCmd r c) s := ask h

lemma getVars {post : State → Except String Vars → Prop} (h : post s (.ok s.vars)) :
    Does cond post Runner.getVars s := ask fun _ => h

lemma setVars {v : Vars} {post : State → Except String Unit → Prop}
    (h : post { s with vars := v } (.ok ())) : Does cond post (Runner.setVars v) s :=
  ask fun _ => h

lemma readPlan {post : State → Except String (Option Plan) → Prop}
    (h : post s (.ok (s.plans r))) : Does cond post (Runner.readPlan r) s := ask fun _ => h

lemma persistRunPlan {b : Blueprint} {post : State → Except String Unit → Prop}
    (h : post { s with plans := Function.update s.plans r (some (buildPersistedRunPlan b s.vars)) }
      (.ok ())) : Does cond post (Runner.persistRunPlan r b) s :=
  seq <| getVars <| ask fun _ => h

end Does

/-! ### Looking -/

def Command.quiet : Command → Bool
  | sandboxCreate .. | sandboxRemove _ | providerCreate .. | providerDelete _ => false
  | attach .. | detach .. => false
  | _ => true

variable {c : Command} {x : Resource}

lemma exec_quiet (hc : c.quiet) :
    s.exec (.run r c) = ({ s with outcomes := s.outcomes.tail }, s.next.toResult) := by
  have heffect : c.effect r s.world = s.world := by cases c <;> first | rfl | cases hc
  have hremoves : c.removes = none := by cases c <;> first | rfl | cases hc
  have htakes : s.takes c = none := by
    simp only [State.takes, hremoves, filter_none, ite_self]
  simp only [State.exec, heffect, htakes, ite_self, map_none, toList_none,
    nil_append]
  rfl

/-- The part leaves everything but the outcomes as it is. -/
def Looks (t : Prog α) : Prop :=
  ∀ cond s, Does cond (fun s' _ => ∃ o, s' = { s with outcomes := o }) t s

namespace Looks

lemma done {result : Except String α} : Looks (.done result) :=
  fun _ s => Does.done ⟨s.outcomes, rfl⟩

lemma run {c : Command} (hc : c.quiet) : Looks (runCmd r c) := by
  intro cond s
  refine Does.run fun _ => ?_
  rw [exec_quiet hc]; exact ⟨_, rfl⟩

lemma seq {f : α → Prog β} (h : Looks t) (hf : ∀ a, Looks (f a)) : Looks (t >>= f) := by
  intro cond s
  refine Does.seq ((h cond s).mono ?_)
  rintro s' (e | a) ⟨o, rfl⟩
  · exact ⟨o, rfl⟩
  · refine (hf a cond _).mono ?_
    rintro s'' _ ⟨o', rfl⟩; exact ⟨o', rfl⟩

lemma ite {p : Prop} [Decidable p] {t' : Prog α} (h : Looks t) (h' : Looks t') :
    Looks (if p then t else t') := by
  split
  · exact h
  · exact h'

end Looks

lemma Does.looks (h : Looks t) (hpost : ∀ o result, post { s with outcomes := o } result) :
    Does cond post t s := by
  refine (h cond s).mono ?_
  rintro s' result ⟨o, rfl⟩; exact hpost o result

section

variable (rd : Readers) (r : RunId) (b : Blueprint)

lemma looks_requireProviderDerivedPolicy : Looks (requireProviderDerivedPolicy rd r) :=
  .seq (.run rfl) fun _ => .ite .done (.ite .done .done)

lemma looks_inspectProvider (receipt : RuntimeIdentityReceipt) :
    Looks (inspectProvider rd r receipt) :=
  .seq (.run rfl) fun _ => .ite .done (.ite .done (.ite .done .done))

lemma looks_importProfile (config : RuntimeIdentityConfig) : Looks (importProfile rd r config) :=
  .seq (.run rfl) fun _ => .ite .done <| .ite .done <|
    .seq (.run rfl) fun _ => .ite .done (.ite .done .done)

lemma looks_configureRefresh (receipt : RuntimeIdentityReceipt) :
    Looks (configureRefresh rd r receipt) :=
  .seq (.run rfl) fun _ => .ite .done <| .seq (.run rfl) fun _ => .ite .done .done

lemma looks_assertReusableRuntimeIdentitySandbox (output : String) :
    Looks (assertReusableRuntimeIdentitySandbox rd b output) := .ite .done .done

lemma looks_assertReusableInferenceProvider (output : String) :
    Looks (assertReusableInferenceProvider rd b output) := .ite .done .done

lemma looks_inspectSandbox : Looks (inspectSandbox rd r b) :=
  .seq (.run rfl) fun _ => .ite
    (.seq (looks_assertReusableRuntimeIdentitySandbox rd b _) fun _ => .done) (.ite .done .done)

lemma looks_inspectInferenceProvider : Looks (inspectInferenceProvider rd r b) :=
  .seq (.run rfl) fun _ => .ite
    (.seq (looks_assertReusableInferenceProvider rd b _) fun _ => .done) (.ite .done .done)

lemma looks_inspectInferenceRoute : Looks (inspectInferenceRoute rd r b) := by
  refine .seq (.run rfl) fun result => .ite .done ?_
  cases rd.routeBinding result.stdout with
  | some route => exact .done
  | none => exact .ite .done .done

lemma looks_reuseRacedSandbox : Looks (reuseRacedSandbox rd r b) :=
  .ite (.seq (.run rfl) fun _ => .ite .done (looks_assertReusableRuntimeIdentitySandbox rd b _))
    .done

lemma looks_reuseRacedProvider : Looks (reuseRacedProvider rd r b) :=
  .ite (.seq (.run rfl) fun _ => .ite .done (looks_assertReusableInferenceProvider rd b _)) .done

lemma looks_setInferenceRoute : Looks (setInferenceRoute rd r b) :=
  .seq (.run rfl) fun _ => .ite .done .done

lemma looks_applyPolicyAdditions : Looks (applyPolicyAdditions rd r b) :=
  .ite (.seq (.run rfl) fun _ => .ite .done <|
    .seq .done fun _ => .seq (.run rfl) fun _ => .ite .done .done) .done

end

lemma Command.effect_of_removes (h : c.removes = some x) (w : World) :
    c.effect r w = w.remove x ∧ c.absent w = (w.origin x).isNone := by
  cases c <;> first | (cases h; exact ⟨rfl, rfl⟩) | cases h

/-- What is to be removed is gone, where the command succeeds or nothing was there. -/
theorem exec_removes (hc : c.removes = some x) (hhonest : s.Honest true (.run r c))
    (h : s.next.exitCode = 0 ∨ s.next.saysMissing) :
    (s.exec (.run r c)).1.world.origin x = none := by
  obtain ⟨heffect, habsent⟩ := Command.effect_of_removes hc s.world (r := r)
  show (if s.next.effective then c.effect r s.world else s.world).origin x = none
  split
  · rw [heffect]; exact World.remove_origin_self _ x
  next hineffective =>
  have hexit : s.next.exitCode ≠ 0 := fun hexit => hineffective (hhonest.1 hexit).1
  have hmissing := (hhonest.2 rfl hexit).2 (h.resolve_left hexit)
  rw [habsent, isNone_iff_eq_none] at hmissing; exact hmissing

def Command.creates : Command → Option Resource
  | sandboxCreate _ name _ => some (.sandbox name)
  | providerCreate name _ _ => some (.provider name)
  | _ => none

lemma Command.effect_of_creates (h : c.creates = some x) (w : World) :
    c.effect r w = w.create x (.run r) ∧ c.refused w = (w.origin x).isSome ∧
      c.removes = none := by
  cases c <;> first | (cases h; exact ⟨rfl, rfl, rfl⟩) | cases h

lemma exec_removed_of_creates (hc : c.creates = some x) :
    (s.exec (.run r c)).1.removed = s.removed := by
  have hremoves := (Command.effect_of_creates hc s.world (r := r)).2.2
  have htakes : s.takes c = none := by
    simp only [State.takes, hremoves, filter_none, ite_self]
  simp only [State.exec, htakes, map_none, toList_none, nil_append]

/-- A command that succeeds has created what it was to create, which was absent. -/
theorem exec_creates (hc : c.creates = some x) (hhonest : s.Honest strict (.run r c))
    (hexit : s.next.exitCode = 0) :
    s.world.origin x = none ∧ (s.exec (.run r c)).1.world = s.world.create x (.run r) := by
  obtain ⟨heffect, hrefused, -⟩ := Command.effect_of_creates hc s.world (r := r)
  obtain ⟨heffective, haccepted⟩ := hhonest.1 hexit
  rw [hrefused, isSome_eq_false_iff, isNone_iff_eq_none] at haccepted
  refine ⟨haccepted, ?_⟩
  show (if s.next.effective then c.effect r s.world else s.world) = _
  rw [if_pos heffective, heffect]

lemma exec_attached_none (hc : c.removes = some x) {p q : String}
    (h : s.world.attached p q = none) : (s.exec (.run r c)).1.world.attached p q = none := by
  show (if s.next.effective then c.effect r s.world else s.world).attached p q = none
  rw [(Command.effect_of_removes hc s.world).1]
  split
  · cases hattached : (s.world.remove x).attached p q with
    | none => rfl
    | some c => rw [World.attached_of_remove hattached] at h; cases h
  · exact h

theorem exec_detaches {sandbox provider : String}
    (hhonest : s.Honest true (.run r (.detach sandbox provider)))
    (h : s.next.exitCode = 0 ∨ s.next.saysMissing) :
    (s.exec (.run r (.detach sandbox provider))).1.world.attached sandbox provider = none := by
  show (if s.next.effective then s.world.detach sandbox provider else s.world).attached
    sandbox provider = none
  split
  · exact World.detach_attached_self ..
  · next hineffective =>
    have hexit : s.next.exitCode ≠ 0 := fun hexit => hineffective (hhonest.1 hexit).1
    exact isNone_iff_eq_none.mp ((hhonest.2 rfl hexit).2 (h.resolve_left hexit))

end Does

end NemoClaw.Runner
