import NemoClaw.Lib.Pool
import NemoClaw.Inference.ManagedState

/- Calls of the managed llama.cpp state, interleaved and cut anywhere.

No call takes a file away, so what a call returned is what its file holds from then on,
and two calls return the same. A process that stops between the link of a file and the
removal of its temporary name leaves a file with two links, which every later call
refuses: a call that is repeated alone succeeds exactly if its file is not left so.
-/
namespace NemoClaw.ManagedState

open Js CallTree PrivateFiles

abbrev StateFiles := Files StateFile Text

def StateFile.Holds : StateFile → Text → Prop
  | .owner, .owner value => value.isNormal
  | .apiKey, .apiKey value => isSha256 value
  | .receipt, .receipt _ => True
  | _, _ => False

def Sound (d : StateFiles) : Prop := ∀ x c, d.contents x = some c → x.Holds c

/-- What every call keeps: the files that are there, with what is in them. -/
structure Lasting (d d' : StateFiles) : Prop where
  contents : ∀ x c, d.contents x = some c → d'.contents x = some c
  sound : Sound d → Sound d'

lemma Lasting.refl (d : StateFiles) : Lasting d d := ⟨fun _ _ h => h, fun h => h⟩

lemma Lasting.trans {a b c : StateFiles} (h : Lasting a b) (h' : Lasting b c) :
    Lasting a c :=
  ⟨fun x t ht => h'.contents x t (h.contents x t ht), fun hs => h'.sound (h.sound hs)⟩

/-- The call adds to the files at most, and links what belongs there. -/
def Publishes (q : FsCall StateFile Text) : Prop :=
  q.Adds ∧ ∀ x n c, q = .link x n c → x.Holds c

lemma exec_lasting {q : FsCall StateFile Text} (hq : Publishes q) (d : StateFiles) :
    Lasting d (d.exec q).1 := by
  refine ⟨fun x c hc => Files.exec_contents hq.1 hc, fun hsound x c hc => ?_⟩
  -- a text that was not there before has just been linked
  rcases Files.exec_new hq.1 hc with hold | ⟨n, hlink⟩
  · exact hsound x c hold
  · exact hq.2 x n c hlink

/-! ## What a call knows at its end -/

/-- The program, whatever others do between its calls, ends with `post`. -/
abbrev Does {α : Type} (post : StateFiles → Except Failure α → Prop) (t : Step α)
    (d : StateFiles) : Prop :=
  Safe Files.exec Lasting (fun _ _ => True) Lasting post t d

section Does

variable {α β : Type} {t : Step α} {d : StateFiles} {x : StateFile} {n : ℕ} {c : Text}
  {post : StateFiles → Except Failure α → Prop}

lemma Does.bind {f : α → Step β} {post' : StateFiles → Except Failure β → Prop}
    (h : Does post t d) (hok : ∀ d a, post d (.ok a) → Does post' (f a) d)
    (herror : ∀ d e, post d (.error e) → post' d (.error e)) : Does post' (t.bind f) d :=
  Safe.bind Lasting.refl h hok herror

lemma Does.lift {r : Except Failure α} {f : α → Step β}
    {post' : StateFiles → Except Failure β → Prop} (hok : ∀ a, r = .ok a → Does post' (f a) d)
    (herror : ∀ e, r = .error e → ∀ d', post' d' (.error e)) :
    Does post' ((Tree.lift r).bind f) d := by
  cases r with
  | ok a => exact hok a rfl
  | error e => exact fun d' _ => herror e rfl d'

lemma Does.keeps (ht : t.Calls Publishes) (h : d.contents x = some c) :
    Does (fun d _ => d.contents x = some c) t d := by
  refine Safe.of_calls ht (fun _ _ hrely hd => hrely.contents x c hd) ?_ h
  intro d' q hq _ hd; exact ⟨exec_lasting hq d', (exec_lasting hq d').contents x c hd⟩

lemma Does.of_calls (ht : t.Calls Publishes) : Does (fun _ _ => True) t d := by
  refine Safe.of_calls ht (fun _ _ _ h => h) ?_ trivial
  intro d' q hq _ _; exact ⟨exec_lasting hq d', trivial⟩

lemma readSync_publishes : (readSync x : Step _).Calls Publishes :=
  Tree.Calls.ask ⟨trivial, fun _ _ _ h => nomatch h⟩

lemma openSync_publishes : (openSync x : Step ℕ).Calls Publishes :=
  Tree.Calls.ask ⟨trivial, fun _ _ _ h => nomatch h⟩

lemma writeFileSync_publishes : (writeFileSync x n c : Step Unit).Calls Publishes :=
  Tree.Calls.ask ⟨trivial, fun _ _ _ h => nomatch h⟩

lemma unlinkTemporary_publishes : (unlinkTemporary x n : Step Bool).Calls Publishes :=
  Tree.Calls.ask ⟨trivial, fun _ _ _ h => nomatch h⟩

lemma finallyCleanup_publishes {r : Except Failure Bool} :
    (finallyCleanup x n r).Calls Publishes :=
  (unlinkTemporary_publishes.bind fun _ => .done).bind fun _ => .done

lemma readPrivateFile_publishes : (readPrivateFile x).Calls Publishes := by
  refine readSync_publishes.bind fun before => ?_
  cases before with
  | none => exact .done
  | some f => exact .ite (fun _ => .done) fun _ => readSync_publishes.bind fun _ => .done

lemma loadManagedLlamaCppOwner_publishes : loadManagedLlamaCppOwner.Calls Publishes := by
  refine readPrivateFile_publishes.bind fun serialized => ?_
  cases serialized <;> exact .done

lemma readSync_does :
    Does (fun d r => ∀ f, r = .ok (some f) → d.contents x = some f.content) (readSync x) d := by
  intro d' _ _
  refine ⟨Lasting.refl d', fun d'' hd'' f hf => hd''.contents x _ ?_⟩
  have hlookup : d'.files.lookup x = some f := Except.ok.inj hf
  show (d'.files.lookup x).map (·.content) = some f.content
  rw [hlookup]; rfl

lemma readPrivateFile_does :
    Does (fun d r => ∀ c, r = .ok (some c) → d.contents x = some c) (readPrivateFile x) d := by
  refine readSync_does.bind (fun d1 before hbefore => ?_) fun _ _ _ _ h => error_ne_ok h
  cases before with
  | none => intro d2 _ c hc; cases hc
  | some f =>
    have hfile : d1.contents x = some f.content := hbefore f rfl
    show Does _ (if f.nlink ≠ 1 then fail _ else _) d1
    split
    · intro d2 _ c hc; exact error_ne_ok hc
    refine (Does.keeps readSync_publishes hfile).bind (fun d2 after hd2 => ?_)
      fun _ _ _ _ h => error_ne_ok h
    intro d3 hd3 c hc
    have hc : sameDuringRead f after = .ok (some c) := hc
    unfold sameDuringRead at hc
    split at hc
    · exact error_ne_ok hc
    · cases hc; exact hd3.contents x _ hd2

lemma linkSync_does (hc : x.Holds c) :
    Does (fun d r => r = .ok true → d.contents x = some c) (linkSync x n c) d := by
  intro d' _ _
  have hpublishes : Publishes (.link x n c) := by
    refine ⟨trivial, fun y m c' h => ?_⟩
    obtain ⟨rfl, -, rfl⟩ := FsCall.link.inj h; exact hc
  refine ⟨exec_lasting hpublishes d', fun d'' hd'' hr => hd''.contents x c ?_⟩
  exact Files.contents_of_link (Except.ok.inj hr)

lemma publishExclusive_does (hc : x.Holds c) :
    Does (fun d r => r = .ok true → d.contents x = some c) (publishExclusive x c) d := by
  refine (Does.of_calls openSync_publishes).bind (fun d1 n _ => ?_) fun _ _ _ h => error_ne_ok h
  refine (Does.of_calls writeFileSync_publishes).bind (fun d2 _ _ => ?_)
    fun _ _ _ h => error_ne_ok h
  refine (linkSync_does hc).bind (fun d3 linked hd3 => ?_) fun _ _ _ h => error_ne_ok h
  cases linked with
  | false =>
    -- the answer is false, after the cleanup
    refine (Does.of_calls (unlinkTemporary_publishes.bind fun _ => .done)).bind
      (fun d4 _ _ => ?_) fun _ _ _ h => error_ne_ok h
    intro d5 _ h; cases h
  | true =>
    have hfile : d3.contents x = some c := hd3 rfl
    have hrest : Does (fun d _ => d.contents x = some c)
        ((unlinkTemporary x n).bind fun removed => if removed then
          finallyCleanup x n (.ok true) else finallyCleanup x n (.error .noEntry)) d3 := by
      refine Does.keeps (unlinkTemporary_publishes.bind fun _ => ?_) hfile
      exact .ite (fun _ => finallyCleanup_publishes) fun _ => finallyCleanup_publishes
    exact hrest.mono fun _ _ hd _ => hd

end Does

def Returned.file : Returned → StateFile
  | owner _ => .owner
  | apiKey _ => .apiKey
  | receipt _ => .receipt

def Returned.text : Returned → Text
  | owner reservation => .owner reservation.owner
  | apiKey value => .apiKey value
  | receipt canonical => .receipt canonical

lemma normalizeOwner_eq_ok {value owner : Owner} (h : normalizeOwner value = .ok owner) :
    owner = value ∧ value.isNormal := by
  unfold normalizeOwner at h
  split at h
  · next hnormal => exact ⟨(Except.ok.inj h).symm, hnormal⟩
  · exact error_ne_ok h

section Operations

variable {d : StateFiles}

lemma reservedByOther_does :
    Does (fun _ r => ∀ v, r ≠ .ok v) reservedByOther d := by
  refine (Does.of_calls loadManagedLlamaCppOwner_publishes).bind (fun d' _ _ => ?_)
    fun _ _ _ _ h => error_ne_ok h
  intro d'' _ v h; exact error_ne_ok h

lemma publish_does {α : Type} {x : StateFile} {c : Text} {own : α} (text : α → Text)
    {raced : Option Text → Except Failure α} (hc : x.Holds c) (hown : text own = c)
    (hraced : ∀ existing v, raced existing = .ok v → existing = some (text v)) :
    Does (fun d r => ∀ v, r = .ok v → d.contents x = some (text v))
      ((publishExclusive x c).bind fun published => if published then .done (.ok own)
        else (readPrivateFile x).bind fun existing => .lift (raced existing)) d := by
  refine (publishExclusive_does hc).bind (fun d1 published hd1 => ?_)
    fun _ _ _ _ h => error_ne_ok h
  cases published with
  | true =>
    intro d2 hd2 v hv
    cases hv; exact hd2.contents _ _ ((hd1 rfl).trans (congrArg some hown.symm))
  | false =>
    refine readPrivateFile_does.bind (fun d2 existing hd2 => ?_) fun _ _ _ _ h => error_ne_ok h
    intro d3 hd3 v hv
    exact hd3.contents _ _ (hd2 _ (congrArg Except.ok (hraced existing v hv)))

lemma publishOwner_does {owner : Owner} (hnormal : owner.isNormal) :
    Does (fun d r => ∀ v, r = .ok v → d.contents .owner = some (.owner v.owner))
      (publishOwner owner) d := by
  refine publish_does (x := .owner) (c := .owner owner)
    (fun v : OwnerReservation => .owner v.owner) hnormal rfl fun existing v hv => ?_
  unfold racedOwner at hv
  split at hv
  · next hraced =>
    cases hv; exact hraced
  · exact error_ne_ok hv

lemma claimManagedLlamaCppOwner_does {owner : Owner} :
    Does (fun d r => ∀ v, r = .ok v → d.contents .owner = some (.owner v.owner))
      (claimManagedLlamaCppOwner owner) d := by
  refine Does.lift (fun normal hnormal => ?_) fun _ _ _ _ h => error_ne_ok h
  obtain ⟨rfl, hnormal⟩ := normalizeOwner_eq_ok hnormal
  refine readPrivateFile_does.bind (fun d1 existing hd1 => ?_) fun _ _ _ _ h => error_ne_ok h
  cases existing with
  | none => exact publishOwner_does hnormal
  | some text =>
  show Does _ (if text = .owner normal then pure _ else _) d1
  split
  · next htext =>
    intro d2 hd2 v hv
    cases hv; exact hd2.contents _ _ (htext ▸ hd1 text rfl)
  · exact reservedByOther_does.mono fun _ _ hd v hv => absurd hv (hd v)

lemma exactApiKey_eq_ok {text : Option Text} {value : String}
    (h : exactApiKey text = .ok value) : text = some (.apiKey value) := by
  unfold exactApiKey at h
  split at h
  · next value' =>
    split at h
    · cases h; rfl
    · exact error_ne_ok h
  · exact error_ne_ok h

lemma publishApiKey_does {value : String} (hvalue : isSha256 value) :
    Does (fun d r => ∀ v, r = .ok v → d.contents .apiKey = some (.apiKey v))
      (publishApiKey value) d :=
  publish_does (x := .apiKey) (c := .apiKey value) .apiKey hvalue rfl fun _ _ => exactApiKey_eq_ok

lemma loadOrCreateManagedLlamaCppApiKey_does {value : RandomKey} :
    Does (fun d r => ∀ v, r = .ok v → d.contents .apiKey = some (.apiKey v))
      (loadOrCreateManagedLlamaCppApiKey value) d := by
  refine readPrivateFile_does.bind (fun d1 existing hd1 => ?_) fun _ _ _ _ h => error_ne_ok h
  cases existing with
  | none => exact publishApiKey_does value.property
  | some text =>
    intro d2 hd2 v hv
    exact hd2.contents _ _ (hd1 _ (congrArg Except.ok (exactApiKey_eq_ok hv)))

lemma sameReceipt_eq_ok {canonical v message : String} {existing : Option Text}
    (h : sameReceipt canonical existing message = .ok v) : existing = some (.receipt v) := by
  unfold sameReceipt at h
  split at h
  · next hexisting =>
    cases h; exact hexisting
  · exact error_ne_ok h

lemma publishReceipt_does {canonical : String} :
    Does (fun d r => ∀ v, r = .ok v → d.contents .receipt = some (.receipt v))
      (publishReceipt canonical) d :=
  publish_does (x := .receipt) (c := .receipt canonical) .receipt trivial rfl
    fun _ _ => sameReceipt_eq_ok

variable {canonicalReceipt : String → Except Failure String}

lemma writeReceipt_does {transactionId serialized : String} :
    Does (fun d r => ∀ v, r = .ok v → d.contents .receipt = some (.receipt v))
      (writeReceipt canonicalReceipt transactionId serialized) d := by
  unfold writeReceipt
  split
  · refine Does.lift (fun canonical _ => ?_) fun _ _ _ _ h => error_ne_ok h
    refine readPrivateFile_does.bind (fun d1 existing hd1 => ?_) fun _ _ _ _ h => error_ne_ok h
    cases existing with
    | none => exact publishReceipt_does
    | some text =>
      intro d2 hd2 v hv
      exact hd2.contents _ _ (hd1 _ (congrArg Except.ok (sameReceipt_eq_ok hv)))
  · intro d2 _ v hv; exact error_ne_ok hv

lemma program_does (op : Operation) :
    Does (fun d r => ∀ v : Returned, r = .ok v → d.contents v.file = some v.text)
      (op.program canonicalReceipt) d := by
  cases op with
  | claim owner =>
    refine claimManagedLlamaCppOwner_does.bind (fun d1 v hd1 => ?_) fun _ _ _ _ h => error_ne_ok h
    intro d2 hd2 w hw
    cases hw; exact hd2.contents _ _ (hd1 v rfl)
  | apiKey value =>
    refine loadOrCreateManagedLlamaCppApiKey_does.bind (fun d1 v hd1 => ?_)
      fun _ _ _ _ h => error_ne_ok h
    intro d2 hd2 w hw
    cases hw; exact hd2.contents _ _ (hd1 v rfl)
  | receipt transactionId serialized =>
    refine writeReceipt_does.bind (fun d1 v hd1 => ?_) fun _ _ _ _ h => error_ne_ok h
    intro d2 hd2 w hw
    cases hw; exact hd2.contents _ _ (hd1 v rfl)

end Operations

/-! ## A call alone -/

def readAnswer : Option (File Text) → Except Failure (Option Text)
  | none => .ok none
  | some f =>
    if f.nlink ≠ 1 then invalid "Managed llama.cpp state is not an owner-only regular file."
    else .ok (some f.content)

lemma readAnswer_single {f : File Text} (h : f.nlink = 1) :
    readAnswer (some f) = .ok (some f.content) := if_neg (not_not.mpr h)

lemma readAnswer_linked {f : File Text} (h : f.nlink ≠ 1) :
    readAnswer (some f) =
      invalid "Managed llama.cpp state is not an owner-only regular file." := if_pos h

/-- The program, with nobody else at work, ends with `post`. -/
abbrev Alone {α : Type} (post : StateFiles → Except Failure α → Prop) (t : Step α)
    (d : StateFiles) : Prop :=
  Runs (fun _ => True) (fun _ => True) post t d

section Alone

variable {d : StateFiles} {x : StateFile} {c : Text}

lemma readPrivateFile_alone :
    Alone (fun d' r => d' = d ∧ r = readAnswer (d.files.lookup x)) (readPrivateFile x) d := by
  refine readSync_runs.bind (fun d1 before hd1 => ?_) fun _ _ hd => nomatch hd.2
  obtain ⟨rfl, hbefore⟩ := hd1
  cases hbefore
  cases hfile : d1.files.lookup x with
  | none => exact .done ⟨rfl, rfl⟩
  | some f =>
  by_cases hnlink : f.nlink = 1
  · rw [readAnswer_single hnlink]
    show Alone _ (if f.nlink ≠ 1 then fail _ else _) d1
    rw [if_neg (not_not.mpr hnlink)]
    refine readSync_runs.bind (fun d2 after hd2 => ?_) fun _ _ hd => nomatch hd.2
    obtain ⟨rfl, hafter⟩ := hd2
    cases hafter
    have hsame : sameDuringRead f (d2.files.lookup x) = .ok (some f.content) := by
      unfold sameDuringRead
      rw [if_neg (not_not.mpr hfile)]
    rw [hsame]; exact .done ⟨rfl, rfl⟩
  · rw [readAnswer_linked hnlink]
    show Alone _ (if f.nlink ≠ 1 then fail _ else _) d1
    rw [if_pos hnlink]; exact .done ⟨rfl, rfl⟩

lemma publishExclusive_alone (hfree : d.files.lookup x = none) :
    Alone (fun _ r => r = .ok true) (publishExclusive x c) d := by
  refine (openSync_runs trivial).bind (fun d1 n hd1 => ?_) fun _ _ hd => nomatch hd.2
  obtain ⟨hfiles, -⟩ := hd1
  refine writeFileSync_runs.bind (fun d2 _ hd2 => ?_) fun _ _ hd => nomatch hd.2
  obtain ⟨rfl, -⟩ := hd2
  rw [← hfiles] at hfree
  refine (linkSync_runs hfree fun h => h).bind (fun d3 linked hd3 => ?_)
    fun _ _ hd => nomatch hd.2.2
  obtain ⟨hd3, hloose, hlinked⟩ := hd3
  cases hlinked
  have hfile : d3.files.lookup x = some ⟨c, [n]⟩ := by
    rw [hd3]; exact AList.lookup_insert _
  refine (unlinkTemporary_runs hloose hfile fun h => h).bind (fun d4 removed hd4 => ?_)
    fun _ _ hd => nomatch hd.2
  obtain ⟨hd4, hremoved⟩ := hd4
  cases hremoved
  have hfile4 : d4.files.lookup x = some ⟨c, []⟩ := by
    rw [hd4]; exact AList.lookup_insert _
  exact (cleanup_runs_named hfile4).bind (fun _ _ _ => .done rfl) fun _ _ hd => nomatch hd.2

/-- The program succeeds exactly if the proposition holds. -/
abbrev SucceedsIff {α : Type} (p : Prop) (t : Step α) (d : StateFiles) : Prop :=
  Alone (fun _ r => (∃ v, r = .ok v) ↔ p) t d

lemma SucceedsIff.lift {α : Type} {p : Prop} {r : Except Failure α}
    (h : (∃ v, r = .ok v) ↔ p) : SucceedsIff p (.lift r) d := .done h

lemma SucceedsIff.fail {α : Type} {p : Prop} {message : String} (h : ¬p) :
    SucceedsIff p (PrivateFiles.fail message : Step α) d :=
  .done ⟨fun ⟨_, hv⟩ => error_ne_ok hv, fun hp => absurd hp h⟩

/-- A value that is computed without a call decides how the program goes on. -/
lemma SucceedsIff.check {α β : Type} {p q : Prop} {r : Except Failure α} {t : α → Step β}
    (hok : ∀ a, r = .ok a → p) (herror : ∀ e, r = .error e → ¬p)
    (h : ∀ a, r = .ok a → SucceedsIff q (t a) d) :
    SucceedsIff (p ∧ q) ((Tree.lift r).bind t) d := by
  cases r with
  | ok a =>
    refine (h a rfl).mono fun _ _ hr => hr.trans ?_
    exact ⟨fun hq => ⟨hok a rfl, hq⟩, fun hpq => hpq.2⟩
  | error e => exact .done ⟨fun ⟨_, hv⟩ => error_ne_ok hv, fun hpq => absurd hpq.1 (herror e rfl)⟩

/-- The file is refused while it has a second link, and otherwise decides by its text. -/
abbrev Usable (d : StateFiles) (x : StateFile) (fits : Text → Prop) : Prop :=
  ∀ f, d.files.lookup x = some f → f.nlink = 1 ∧ fits f.content

lemma readOrPublish_alone {α : Type} {found : Text → Step α} {absent : Step α}
    {rest : Option Text → Step α} {fits : Text → Prop} (hsome : ∀ text, rest (some text) = found text)
    (hnone : rest none = absent) (hfound : ∀ text, SucceedsIff (fits text) (found text) d)
    (habsent : d.files.lookup x = none → Alone (fun _ r => ∃ v, r = .ok v) absent d) :
    SucceedsIff (Usable d x fits) ((readPrivateFile x).bind rest) d := by
  refine readPrivateFile_alone.bind (fun d1 existing hd1 => ?_) fun d1 e hd1 => ?_
  · obtain ⟨rfl, hexisting⟩ := hd1
    cases hfile : d1.files.lookup x with
    | none =>
      rw [hfile] at hexisting
      cases hexisting
      rw [hnone]
      refine (habsent hfile).mono fun _ r hr => ⟨fun _ f hf => ?_, fun _ => hr⟩
      rw [hfile] at hf; cases hf
    | some f =>
      rw [hfile] at hexisting
      by_cases hnlink : f.nlink = 1
      · rw [readAnswer_single hnlink] at hexisting
        cases hexisting
        rw [hsome]
        refine (hfound f.content).mono fun _ r hr => hr.trans ⟨fun hfits g hg => ?_, fun h => ?_⟩
        · rw [hfile] at hg
          cases hg; exact ⟨hnlink, hfits⟩
        · exact (h f hfile).2
      · rw [readAnswer_linked hnlink] at hexisting; exact error_ne_ok hexisting.symm
  · obtain ⟨rfl, he⟩ := hd1
    refine ⟨fun ⟨_, hv⟩ => error_ne_ok hv, fun husable => ?_⟩
    cases hfile : d1.files.lookup x with
    | none => rw [hfile] at he; exact error_ne_ok he
    | some f =>
      rw [hfile, readAnswer_single (husable f hfile).1] at he; exact error_ne_ok he

end Alone

def Operation.Valid (canonicalReceipt : String → Except Failure String) : Operation → Prop
  | claim owner => owner.isNormal
  | apiKey _ => True
  | receipt transactionId serialized =>
    isSha256 transactionId ∧ canonicalReceipt serialized = .ok serialized

def Operation.file : Operation → StateFile
  | claim _ => .owner
  | apiKey _ => .apiKey
  | receipt .. => .receipt

def Operation.Own : Operation → Text → Prop
  | claim owner, text => text = .owner owner
  | apiKey _, _ => True
  | receipt _ serialized, text => text = .receipt serialized

section Alone

variable {d : StateFiles} {canonicalReceipt : String → Except Failure String}

lemma reservedByOther_fails : SucceedsIff False reservedByOther d := by
  have hload : Alone (fun _ _ => True) loadManagedLlamaCppOwner d :=
    Safe.of_calls loadManagedLlamaCppOwner_publishes (fun _ _ _ h => h)
      (fun _ _ _ _ _ => ⟨⟨fun h => h, fun _ _ _ => trivial⟩, trivial⟩) trivial
  refine hload.bind (fun d' _ _ => SucceedsIff.fail fun h => h) fun _ _ _ => ?_
  exact ⟨fun ⟨_, hv⟩ => error_ne_ok hv, fun h => h.elim⟩

lemma claimManagedLlamaCppOwner_alone {owner : Owner} :
    SucceedsIff (owner.isNormal ∧ Usable d .owner (· = .owner owner))
      (claimManagedLlamaCppOwner owner) d := by
  refine SucceedsIff.check (fun normal h => (normalizeOwner_eq_ok h).2) (fun e h hnormal => ?_)
    fun normal h => ?_
  · rw [normalizeOwner, if_pos hnormal] at h; exact error_ne_ok h.symm
  · obtain ⟨rfl, hnormal⟩ := normalizeOwner_eq_ok h
    refine readOrPublish_alone (fun _ => rfl) rfl (fun text => ?_) fun hfree => ?_
    · show SucceedsIff _ (if text = .owner normal then _ else _) d
      by_cases htext : text = .owner normal
      · rw [if_pos htext]; exact .done ⟨fun _ => htext, fun _ => ⟨_, rfl⟩⟩
      · rw [if_neg htext]
        exact reservedByOther_fails.mono fun _ r hr => hr.trans ⟨False.elim, htext⟩
    · refine (publishExclusive_alone hfree).bind (fun d1 published hd1 => ?_)
        fun _ _ h => error_ne_ok h
      cases hd1; exact .done ⟨_, rfl⟩

lemma exactApiKey_succeeds {text : Text} :
    (∃ v, exactApiKey (some text) = .ok v) ↔
      ∃ value, isSha256 value ∧ text = .apiKey value := by
  constructor
  · intro ⟨v, hv⟩
    cases exactApiKey_eq_ok hv
    refine ⟨v, ?_, rfl⟩
    by_contra hmalformed; simp only [exactApiKey, hmalformed] at hv; exact error_ne_ok hv
  · intro ⟨value, hvalue, htext⟩
    subst htext; exact ⟨value, if_pos hvalue⟩

lemma loadOrCreateManagedLlamaCppApiKey_alone {value : RandomKey} :
    SucceedsIff (Usable d .apiKey fun text => ∃ value, isSha256 value ∧ text = .apiKey value)
      (loadOrCreateManagedLlamaCppApiKey value) d := by
  refine readOrPublish_alone (fun _ => rfl) rfl
    (fun text => SucceedsIff.lift exactApiKey_succeeds) fun hfree => ?_
  refine (publishExclusive_alone hfree).bind (fun d1 published hd1 => ?_)
    fun _ _ h => error_ne_ok h
  cases hd1; exact .done ⟨_, rfl⟩

lemma sameReceipt_succeeds {canonical message : String} {text : Text} :
    (∃ v, sameReceipt canonical (some text) message = .ok v) ↔ text = .receipt canonical := by
  unfold sameReceipt
  split
  · next h => exact ⟨fun _ => Option.some.inj h, fun _ => ⟨_, rfl⟩⟩
  · next h => exact ⟨fun ⟨_, hv⟩ => error_ne_ok hv, fun htext => absurd (congrArg some htext) h⟩

lemma requireCanonical_eq_ok {serialized canonical : String} :
    requireCanonical canonicalReceipt serialized = .ok canonical ↔
      canonical = serialized ∧ canonicalReceipt serialized = .ok serialized := by
  unfold requireCanonical
  rw [bind_eq_ok]
  constructor
  · intro ⟨c, hc, hrest⟩
    split at hrest
    · exact error_ne_ok hrest
    next hsame =>
    rw [not_not] at hsame
    subst hsame; exact ⟨pure_eq_ok.mp hrest, hc⟩
  · intro ⟨hcanonical, hc⟩
    refine ⟨serialized, hc, ?_⟩
    rw [if_neg (not_not.mpr rfl), hcanonical]; rfl

lemma writeReceipt_alone {transactionId serialized : String} :
    SucceedsIff ((isSha256 transactionId ∧ canonicalReceipt serialized = .ok serialized) ∧
        Usable d .receipt (· = .receipt serialized))
      (writeReceipt canonicalReceipt transactionId serialized) d := by
  unfold writeReceipt
  split
  · next hid =>
    have hwrite : SucceedsIff (canonicalReceipt serialized = .ok serialized ∧
        Usable d .receipt (· = .receipt serialized))
        (writeExact canonicalReceipt serialized) d := by
      refine SucceedsIff.check (fun canonical h => (requireCanonical_eq_ok.mp h).2)
        (fun e h hcanonical => ?_) fun canonical h => ?_
      · rw [requireCanonical_eq_ok.mpr ⟨rfl, hcanonical⟩] at h; exact error_ne_ok h.symm
      · obtain ⟨rfl, -⟩ := requireCanonical_eq_ok.mp h
        refine readOrPublish_alone (fun _ => rfl) rfl
          (fun text => SucceedsIff.lift sameReceipt_succeeds) fun hfree => ?_
        refine (publishExclusive_alone hfree).bind (fun d1 published hd1 => ?_)
          fun _ _ h => error_ne_ok h
        cases hd1; exact .done ⟨_, rfl⟩
    refine hwrite.mono fun _ r hr => hr.trans ?_
    exact ⟨fun h => ⟨⟨hid, h.1⟩, h.2⟩, fun h => ⟨h.1.2, h.2⟩⟩
  · next hid => exact SucceedsIff.fail fun h => hid h.1.1

/-- A program that ends with what another one returned. -/
lemma SucceedsIff.map {α β : Type} {p : Prop} {t : Step α} {f : α → β}
    (h : SucceedsIff p t d) : SucceedsIff p (t.bind fun a => .done (.ok (f a))) d := by
  refine Runs.bind h (fun d1 a hd1 => .done ?_) fun d1 e hd1 => ?_
  · exact ⟨fun _ => hd1.mp ⟨a, rfl⟩, fun _ => ⟨_, rfl⟩⟩
  · refine ⟨fun ⟨_, hv⟩ => error_ne_ok hv, fun hp => ?_⟩
    obtain ⟨v, hv⟩ := hd1.mpr hp; exact error_ne_ok hv

lemma Sound.apiKey (h : Sound d) {f : File Text} (hf : d.files.lookup .apiKey = some f) :
    ∃ value, isSha256 value ∧ f.content = .apiKey value := by
  have hholds : StateFile.apiKey.Holds f.content := h .apiKey f.content (by
    rw [Files.contents, hf]
    rfl)
  cases hcontent : f.content with
  | apiKey value => rw [hcontent] at hholds; exact ⟨value, hholds, rfl⟩
  | owner value => rw [hcontent] at hholds; exact hholds.elim
  | receipt serialized => rw [hcontent] at hholds; exact hholds.elim

lemma program_alone (hsound : Sound d) (op : Operation) :
    SucceedsIff (op.Valid canonicalReceipt ∧ Usable d op.file op.Own)
      (op.program canonicalReceipt) d := by
  cases op with
  | claim owner => exact claimManagedLlamaCppOwner_alone.map
  | apiKey value =>
    refine loadOrCreateManagedLlamaCppApiKey_alone.map.mono fun _ r hr => hr.trans ?_
    constructor
    · intro h; exact ⟨trivial, fun f hf => ⟨(h f hf).1, trivial⟩⟩
    · intro h f hf; exact ⟨(h.2 f hf).1, hsound.apiKey hf⟩
  | receipt transactionId serialized => exact writeReceipt_alone.map

end Alone

section Runs

variable (canonicalReceipt : String → Except Failure String)

/-- Calls that begin together, with nothing there yet. -/
def start {ι : Type} (ops : ι → Operation) :
    Pool (FsCall StateFile Text) FsCall.Answer Failure Returned StateFiles ι :=
  ⟨Files.empty, fun i => (ops i).program canonicalReceipt⟩

def Operation.Succeeds (op : Operation) (d : StateFiles) : Prop :=
  ∃ v, ((op.program canonicalReceipt).finish Files.exec d).2 = .ok v

variable {canonicalReceipt} {ι : Type}
  {p : Pool (FsCall StateFile Text) FsCall.Answer Failure Returned StateFiles ι}

lemma succeeds_iff {op : Operation} {d : StateFiles} (hsound : Sound d) :
    op.Succeeds canonicalReceipt d ↔ op.Valid canonicalReceipt ∧ Usable d op.file op.Own :=
  Safe.finish (program_alone hsound op)

/-- However the calls interleave and wherever they stop, all owners returned are one, and
so are all keys and all receipts; and an operation that is then repeated alone succeeds
exactly if its arguments are valid and its file is absent, or holds the same owner or
receipt and was not left with its temporary name. -/
theorem managedLlamaCpp_agrees [DecidableEq ι] {ops : ι → Operation} {events : List ι}
    (hrun : Runs.run (Pool.step Files.exec) (start canonicalReceipt ops) events = some p) :
    (∀ i j v w, p.programs i = .done (.ok (.owner v)) → p.programs j = .done (.ok (.owner w)) →
        v.owner = w.owner) ∧
      (∀ i j v w, p.programs i = .done (.ok (.apiKey v)) →
        p.programs j = .done (.ok (.apiKey w)) → v = w) ∧
      (∀ i j v w, p.programs i = .done (.ok (.receipt v)) →
        p.programs j = .done (.ok (.receipt w)) → v = w) ∧
      ∀ op : Operation, op.Succeeds canonicalReceipt p.store ↔
        op.Valid canonicalReceipt ∧ Usable p.store op.file op.Own := by
  obtain ⟨hsafe, hlasting⟩ :=
    Pool.Safe.run (fun i => program_does (ops i)) Lasting.refl Lasting.trans hrun
  have hsound : Sound p.store := hlasting.sound fun x c hc => nomatch hc
  have hsame : ∀ i j (v w : Returned), p.programs i = .done (.ok v) →
      p.programs j = .done (.ok w) → v.file = w.file → v.text = w.text := by
    intro i j v w hi hj hfile
    have hv : p.store.contents v.file = some v.text := hsafe.done Lasting.refl hi v rfl
    have hw : p.store.contents w.file = some w.text := hsafe.done Lasting.refl hj w rfl
    rw [hfile, hw] at hv; exact (Option.some.inj hv).symm
  refine ⟨fun i j v w hi hj => ?_, fun i j v w hi hj => ?_, fun i j v w hi hj => ?_,
    fun op => succeeds_iff hsound⟩
  · exact Text.owner.inj (hsame i j _ _ hi hj rfl)
  · exact Text.apiKey.inj (hsame i j _ _ hi hj rfl)
  · exact Text.receipt.inj (hsame i j _ _ hi hj rfl)

def alphaOwner : Owner where
  sandboxName := "alpha"
  catalogDigest := "sha256:0123456789abcdef0123456789abcdef0123456789abcdef0123456789abcdef"
  presetDigest := "sha256:0123456789abcdef0123456789abcdef0123456789abcdef0123456789abcdef"
  recipeDigest := "sha256:0123456789abcdef0123456789abcdef0123456789abcdef0123456789abcdef"
  recipeId := "qwen"

/-- One claim publishes the owner file, and a second one of the same owner reads it. -/
theorem managedLlamaCpp_claimedTwice :
    ∃ p, Runs.run (Pool.step Files.exec)
        (start Except.ok fun _ : Bool => .claim alphaOwner)
        [true, true, true, true, true, true, false, false] = some p ∧
      p.programs true = .done (.ok (.owner ⟨alphaOwner, true⟩)) ∧
      p.programs false = .done (.ok (.owner ⟨alphaOwner, false⟩)) ∧
      (∀ i j v w, p.programs i = .done (.ok (.owner v)) →
        p.programs j = .done (.ok (.owner w)) → v.owner = w.owner) ∧
      (Operation.claim alphaOwner).Succeeds Except.ok p.store := by
  obtain ⟨p, hrun, htrue, hfalse, hfile⟩ : ∃ p, Runs.run (Pool.step Files.exec)
      (start Except.ok fun _ : Bool => .claim alphaOwner)
      [true, true, true, true, true, true, false, false] = some p ∧
      p.programs true = .done (.ok (.owner ⟨alphaOwner, true⟩)) ∧
      p.programs false = .done (.ok (.owner ⟨alphaOwner, false⟩)) ∧
      p.store.files.lookup .owner = some ⟨.owner alphaOwner, []⟩ := ⟨_, rfl, rfl, rfl, rfl⟩
  have hagrees := managedLlamaCpp_agrees hrun
  have hvalid : alphaOwner.isNormal := by decide +kernel
  refine ⟨p, hrun, htrue, hfalse, hagrees.1, (hagrees.2.2.2 _).mpr ⟨hvalid, fun f hf => ?_⟩⟩
  cases hfile.symm.trans hf; exact ⟨rfl, rfl⟩

/-- A claim that stops after its link leaves the owner file with two links, and the same
claim fails from then on. -/
theorem managedLlamaCpp_leftLinked :
    ∃ p, Runs.run (Pool.step Files.exec)
        (start Except.ok fun _ : Unit => .claim alphaOwner) [(), (), (), ()] = some p ∧
      (∀ r, p.programs () ≠ .done r) ∧
      ((Operation.claim alphaOwner).program Except.ok).finish Files.exec p.store =
        (p.store,
          .error (.invalid "Managed llama.cpp state is not an owner-only regular file.")) := by
  refine ⟨_, rfl, fun r h => ?_, rfl⟩
  cases h

end Runs

end NemoClaw.ManagedState
