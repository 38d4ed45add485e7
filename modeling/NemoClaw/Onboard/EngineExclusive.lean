import NemoClaw.Onboard.EngineRely

/- One executor of an engine lifecycle.

What is proved:
  1. `enterExecution_does`, `insideExecution_does` — what a call relies on and what it
     leaves to the others, for each of its parts.
  2. `executePersistedEngineLifecycle_exclusive` — along every run in which no recovery
     marker of another live call is removed, one live call at most has the lease of a
     transaction, a command is given to the engine only by a call whose lease file is
     in place, and all completions of a transaction have one result.
  3. `executePersistedEngineLifecycle_twoExecutors` — without that condition there are
     runs with two.
-/
namespace NemoClaw.EngineLifecycle

open Js CallTree PrivateFiles Runs Option Function

section Programs

variable {A V : Type} {calls : Executions A V} {env : Environment} {a b : A} {s s' : Store}
  {mine : Option Lease} {P : Store → Prop}

lemma contents_unlink {x y : Name} (hne : y ≠ x) :
    (s.exec env (.file (.unlink x))).1.contents y = s.contents y := by
  show ((s.files.exec (.unlink x)).1.files.lookup y).map (·.content) = _
  simp only [Files.exec]
  split
  · rfl
  · rw [AList.lookup_erase_ne hne]; rfl

variable {t : String}

lemma guar_unlink {slot : Slot} (hphase : ∀ phase, slot ≠ .phase phase)
    (hheld : ∀ b, b ≠ a → calls.Live b s → ∀ m, calls.Made b m →
      s.contents (.inTransaction t slot) ≠ some (.lease m))
    (hgated : slot = .lease → ∀ b, b ≠ a → calls.Live b s → ∀ l m, calls.Made b m →
      s.contents (.inTransaction t .recovery) = some (.lease m) →
      s.contents (.inTransaction t .lease) = some (.lease l) → s.alive l.owner ≠ false) :
    calls.Guar a mine s (s.exec env (.file (.unlink (.inTransaction t slot)))).1 := by
  have hphases : ∀ t' phase c, s.contents (.inTransaction t' (.phase phase)) = some c →
      (s.exec env (.file (.unlink (.inTransaction t slot)))).1.contents
        (.inTransaction t' (.phase phase)) = some c := by
    intro t' phase c hc
    rw [contents_unlink (fun heq => hphase phase (Name.inTransaction.inj heq).2.symm), hc]
  refine ⟨fun b hb => ⟨fun _ h => h, hphases, ?_, ?_⟩, hphases, rfl, .inl rfl⟩
  · intro hlive t' slot' m hmade hm
    have hne : Name.inTransaction t' slot' ≠ .inTransaction t slot := by
      intro heq
      rw [heq] at hm; exact hheld b hb hlive m hmade hm
    rw [contents_unlink hne, hm]
  · intro hlive t' l m hmade hm hl hdead
    have hne : Name.inTransaction t' .lease ≠ .inTransaction t slot := by
      intro heq
      obtain ⟨rfl, hslot⟩ := Name.inTransaction.inj heq
      exact hgated hslot.symm b hb hlive l m hmade hm hl hdead
    rw [contents_unlink hne, hl]

lemma guar_unlinkRecovery (hmay : calls.May a s (.file (.unlink (.inTransaction t .recovery)))) :
    calls.Guar a mine s (s.exec env (.file (.unlink (.inTransaction t .recovery)))).1 := by
  refine guar_unlink nofun ?_ nofun
  intro b hb hlive m hmade hm
  rcases hmay.2 _ hm m rfl with hdead | hown
  · exact hmade.live hlive hdead
  · exact hb (hmade.unique hown)

/-- The own lease, or under the own marker one whose owner is dead. -/
lemma guar_unlinkLease {l : Lease} (ha : calls.Live a s)
    (hl : s.contents (.inTransaction t .lease) = some (.lease l))
    (hwhy : calls.Made a l ∨ s.alive l.owner = false ∧ ∃ m, calls.Made a m ∧
      s.contents (.inTransaction t .recovery) = some (.lease m)) :
    calls.Guar a mine s (s.exec env (.file (.unlink (.inTransaction t .lease)))).1 := by
  refine guar_unlink nofun ?_ ?_
  · intro b hb hlive m hmade hm
    obtain rfl : l = m := by
      rw [hl] at hm; exact Content.lease.inj (some.inj hm)
    rcases hwhy with hown | ⟨hdead, -⟩
    · exact hb (hmade.unique hown)
    · exact hmade.live hlive hdead
  · intro _ b hb hlive l' m hmade hm hl' hdead
    obtain rfl : l = l' := by
      rw [hl] at hl'; exact Content.lease.inj (some.inj hl')
    rcases hwhy with hown | ⟨-, m', hmade', hm'⟩
    · exact hown.live ha hdead
    · rw [hm] at hm'
      cases hm'; exact hb (hmade.unique hmade')

lemma unlinkSync_does {x : Name} {Q : Store → Prop} (hP : calls.Stable a P)
    (hQ : calls.Stable a Q) (hs : P s)
    (hunlink : ∀ s, P s → calls.May a s (.file (.unlink x)) →
      calls.Guar a mine s (s.exec env (.file (.unlink x))).1 ∧
        Q (s.exec env (.file (.unlink x))).1) :
    calls.Does env a mine (fun s _ => Q s) (unlinkSync x) s := by
  have hask : calls.Does env a mine (fun s _ => Q s) (unlinkName x) s :=
    .ask (fun s' h hmay => hunlink s' (hP _ _ h hs) hmay) fun _ => hQ
  refine hask.seq (fun s' removed hs' => ?_) fun _ _ hs' => hs'
  exact .quiet (.ite .pure .lift) hQ hs'

lemma readPrivateFile_does {x : Name} {R : Option Content → Store → Prop}
    (hP : calls.Stable a P) (hR : ∀ v, calls.Stable a (R v)) (hs : P s)
    (hread : ∀ s, calls.Live a s → P s → R (s.contents x) s) :
    calls.Does env a mine (fun s r => P s ∧ ∀ v, r = .ok v → R v s) (readPrivateFile x) s := by
  have hask : calls.Does env a mine
      (fun s r => P s ∧ ∀ f, r = .ok f → R (f.map (·.content)) s) (readSync x) s := by
    refine .ask (fun s' h hmay => ⟨.of_grows (Store.exec_grows trivial), ?_⟩) fun f => ?_
    · have htick : calls.Rely a s' (s'.exec env (.file (.read x))).1 :=
        .of_grows (Store.exec_grows trivial)
      have hs' : P s' := hP _ _ h hs
      refine ⟨hP _ _ htick hs', fun f hf => ?_⟩
      cases hf; exact hR _ _ _ htick (hread s' hmay.1 hs')
    · intro s s' h hs
      refine ⟨hP s s' h hs.1, fun f' hf' => ?_⟩
      cases hf'; exact hR _ s s' h (hs.2 f rfl)
  refine hask.seq (fun s' f hs' => ?_) fun s' e hs' => ⟨hs'.1, fun _ h => by cases h⟩
  obtain ⟨hs', hf⟩ := hs'
  have hvalue : ∀ v, v = f.map (·.content) → calls.Does env a mine
      (fun s r => P s ∧ ∀ v, r = .ok v → R v s) (.done (.ok v)) s' := by
    rintro v rfl
    refine .done (fun s s' h hs => ?_) ⟨hs', fun v hv => Except.ok.inj hv ▸ hf f rfl⟩
    refine ⟨hP s s' h hs.1, fun v hv => ?_⟩
    exact hR v s s' h (hs.2 v hv)
  cases f with
  | none => exact hvalue none rfl
  | some f =>
  show calls.Does env a mine _ (if f.nlink ≠ 1 then _ else _) s'
  split
  · exact .failed hP hs'
  have hchanged : calls.Does env a mine
      (fun s _ => P s ∧ R (some f.content) s) changedSync s' :=
    .quiet (.ask trivial) (hP.and (hR _)) ⟨hs', hf _ rfl⟩
  refine hchanged.seq (fun s'' changed hs'' => ?_) fun _ _ h => ⟨h.1, fun _ hv => by cases hv⟩
  show calls.Does env a mine _ (if changed then _ else _) s''
  split
  · exact .failed hP hs''.1
  refine .done (fun s s' h hs => ⟨hP s s' h hs.1, fun v hv => hR v s s' h (hs.2 v hv)⟩) ?_
  refine ⟨hs''.1, fun v hv => ?_⟩
  cases hv; exact hs''.2

lemma publishExclusive_does {x : Name} {c : Content} {Q : Store → Prop}
    (hP : calls.Stable a P) (hQ : calls.Stable a Q) (hs : P s)
    (hfile : ∀ s, s.contents x = some c → Q s) :
    calls.Does env a mine (fun s r => P s ∧ (r = .ok true → Q s)) (publishExclusive x c) s := by
  have hno : ∀ s' (r : Except Failure Bool), r ≠ .ok true → ∀ n, P s' → calls.Does env a mine
      (fun s r => P s ∧ (r = .ok true → Q s)) (cleanup x n r) s' := by
    intro s' r hr n hs'
    have hquiet : calls.Does env a mine (fun s _ => P s) (unlinkTemporary x n) s' :=
      .quiet (.ask trivial) hP hs'
    refine hquiet.seq (fun s'' _ hs'' => ?_) fun _ _ h => ⟨h, fun h => error_ne_ok h⟩
    exact .done (fun s s' h hs => ⟨hP s s' h hs.1, fun heq => absurd heq hr⟩)
      ⟨hs'', fun heq => absurd heq hr⟩
  have hopen : calls.Does env a mine (fun s _ => P s) (openSync x) s :=
    .quiet (.ask trivial) hP hs
  refine hopen.seq (fun s1 n hs1 => ?_) fun _ _ h => ⟨h, fun h => error_ne_ok h⟩
  have hwrite : calls.Does env a mine (fun s _ => P s) (writeFileSync x n c) s1 :=
    .quiet (.ask trivial) hP hs1
  refine hwrite.seq (fun s2 _ hs2 => ?_) fun _ _ h => ⟨h, fun h => error_ne_ok h⟩
  have hlink : calls.Does env a mine (fun s r => P s ∧ (r = .ok true → Q s)) (linkSync x n c) s2 := by
    refine .ask (fun s' h _ => ⟨.of_grows (Store.exec_grows trivial), ?_⟩) fun linked => ?_
    · refine ⟨hP _ _ (.of_grows (Store.exec_grows trivial)) (hP _ _ h hs2), fun hlinked => ?_⟩
      refine hfile _ ?_
      exact Files.contents_of_link (Except.ok.inj hlinked)
    · exact fun s s' h hs => ⟨hP s s' h hs.1, fun hl => hQ s s' h (hs.2 hl)⟩
  refine hlink.seq (fun s3 linked hs3 => ?_) fun _ _ h => ⟨h.1, fun h => error_ne_ok h⟩
  split
  · next hlinked =>
    have hboth : P s3 ∧ Q s3 := ⟨hs3.1, hs3.2 (congrArg Except.ok hlinked)⟩
    have hrest : calls.Does env a mine (fun s _ => P s ∧ Q s)
        (do if ← unlinkTemporary x n then cleanup x n (.ok true)
            else cleanup x n (.error .noEntry)) s3 :=
      .quiet (.seq (.ask trivial) fun _ => .ite (quiet_cleanup _ _ _) (quiet_cleanup _ _ _))
        (hP.and hQ) hboth
    exact hrest.mono fun _ _ h => ⟨h.1, fun _ => h.2⟩
  · exact hno s3 (.ok false) nofun n hs3.1

/-! ## Leases -/

lemma sameLease_ok {current : Option Lease} {expected : Lease} {message : String}
    (h : sameLease current expected message = .ok ()) : current = some expected := by
  cases current with
  | none => cases h
  | some current =>
  obtain ⟨left, hleft, h⟩ := bind_eq_ok.mp h
  obtain ⟨right, hright, h⟩ := bind_eq_ok.mp h
  split at h
  · cases h
  · next hsame =>
    rw [serializeExecutionLease_ok hleft, serializeExecutionLease_ok hright] at hsame
    rw [Content.lease.inj (not_not.mp hsame)]

lemma parseLease_some {v : Option Content} {lease : Lease}
    (h : parseLease v = .ok (some lease)) : v = some (.lease lease) := by
  cases v with
  | none => cases h
  | some c =>
  cases hc : parseExecutionLease c with
  | ok l =>
    simp only [parseLease, hc, Except.map] at h
    cases h
    rw [(parseExecutionLease_ok hc).1]
  | error e => simp only [parseLease, hc, Except.map] at h; cases h

lemma requireLease_does {slot : Slot} {expected : Lease} {message : String} {Q : Store → Prop}
    (hP : calls.Stable a P) (hQ : calls.Stable a fun s => P s ∧ Q s) (hs : P s)
    (hfile : ∀ s, calls.Live a s → P s → s.contents (.inTransaction t slot) =
      some (.lease expected) → Q s) :
    calls.Does env a mine (fun s r => P s ∧ (r = .ok () → Q s))
      (do let current ← loadLeaseFile t slot; Tree.lift (sameLease current expected message)) s := by
  have hR : ∀ v : Option Content,
      calls.Stable a fun s => P s ∧ (v = some (.lease expected) → Q s) :=
    fun v s s' h hs => ⟨hP s s' h hs.1, fun hv => (hQ s s' h ⟨hs.1, hs.2 hv⟩).2⟩
  have hread : calls.Does env a mine
      (fun s r => P s ∧ ∀ v, r = .ok v → P s ∧ (v = some (.lease expected) → Q s))
      (readPrivateFile (.inTransaction t slot)) s :=
    readPrivateFile_does hP hR hs fun s hlive hs => ⟨hs, fun hv => hfile s hlive hs hv⟩
  have hload : calls.Does env a mine
      (fun s r => P s ∧ ∀ current, r = .ok current → P s ∧ (current = some expected → Q s))
      (loadLeaseFile t slot) s := by
    refine hread.seq (fun s' v hs' => ?_) fun _ _ h => ⟨h.1, fun _ hv => by cases hv⟩
    obtain ⟨hs', hv⟩ := hs'
    have hvalue : ∀ current, parseLease v = .ok current → current = some expected → Q s' := by
      rintro _ hparse rfl; exact (hv v rfl).2 (parseLease_some hparse)
    refine .done (fun s s' h hs => ⟨hP s s' h hs.1, fun current hcurrent => ?_⟩)
      ⟨hs', fun current hcurrent => ⟨hs', hvalue current hcurrent⟩⟩
    refine ⟨hP s s' h hs.1, fun heq => ?_⟩
    exact (hQ s s' h ⟨hs.1, (hs.2 current hcurrent).2 heq⟩).2
  refine hload.seq (fun s' current hs' => ?_) fun _ _ h => ⟨h.1, nofun⟩
  refine .done (fun s s' h hs => ⟨hP s s' h hs.1, fun hok => ?_⟩) ⟨hs'.1, fun hok => ?_⟩
  · exact (hQ s s' h ⟨hs.1, hs.2 hok⟩).2
  · exact (hs'.2 current rfl).2 (sameLease_ok hok)

/-- Others rely on nothing that a call does with a marker of its own or a dead owner's. -/
lemma removeExactExecutionRecovery_does {expected : Lease} :
    calls.Does env a mine (fun _ _ => True) (removeExactExecutionRecovery t expected) s := by
  have hload : calls.Does env a mine (fun _ _ => True) (loadExecutionRecovery t) s :=
    .quiet (quiet_loadLeaseFile t .recovery) .true trivial
  refine hload.seq (fun s' current _ => ?_) fun _ _ _ => trivial
  refine .lift (fun _ _ => ?_) fun _ _ => .done .true trivial
  exact unlinkSync_does .true .true trivial fun s _ hmay => ⟨guar_unlinkRecovery hmay, trivial⟩

lemma clearRecovery_does : calls.Does env a mine (fun _ _ => True) (clearRecovery t) s := by
  have hload : calls.Does env a mine (fun _ _ => True) (loadExecutionRecovery t) s :=
    .quiet (quiet_loadLeaseFile t .recovery) .true trivial
  refine hload.seq (fun s' existing _ => ?_) fun _ _ _ => trivial
  cases existing with
  | none => exact .done .true trivial
  | some existing =>
  show calls.Does env a mine _ (if existing.transactionId ≠ t then _ else _) s'
  split
  · exact .done .true trivial
  have halive : calls.Does env a mine (fun _ _ => True) (exactExecutionOwnerIsAlive existing) s' :=
    .quiet (.ask trivial) .true trivial
  refine halive.seq (fun s'' alive _ => ?_) fun _ _ _ => trivial
  split
  · exact .done .true trivial
  · exact removeExactExecutionRecovery_does

lemma isAlive_does {lease : Lease} (hP : calls.Stable a P) (hs : P s) :
    calls.Does env a mine (fun s r => P s ∧ (r = .ok false → s.alive lease.owner = false))
      (exactExecutionOwnerIsAlive lease) s := by
  refine .ask (fun s' h _ => ⟨.of_grows (Store.exec_grows trivial), ?_⟩) fun alive => ?_
  · refine ⟨hP _ _ (.of_grows (Store.exec_grows trivial)) (hP _ _ h hs), fun hdead => ?_⟩
    exact Except.ok.inj hdead
  · exact fun s s' h hs => ⟨hP s s' h hs.1, fun hd => h.dead _ (hs.2 hd)⟩

lemma removeAbandoned_does {marker : Lease} (hmade : calls.Made a marker)
    (hs : calls.Mine a .recovery marker s) :
    calls.Does env a mine (fun _ _ => True) (removeAbandoned marker.transactionId) s := by
  have hmine : calls.Stable a (calls.Mine a .recovery marker) := .mine hmade
  have hload : calls.Does env a mine (fun s _ => calls.Mine a .recovery marker s)
      (loadExecutionLease marker.transactionId) s :=
    .quiet (quiet_loadLeaseFile _ .lease) hmine hs
  refine hload.seq (fun s1 abandoned hs1 => ?_) fun _ _ _ => trivial
  cases abandoned with
  | none => exact .done .true trivial
  | some l =>
  refine (isAlive_does hmine hs1).seq (fun s2 alive hs2 => ?_) fun _ _ _ => trivial
  split
  · exact .done .true trivial
  next halive =>
  have hdead : s2.alive l.owner = false := by
    refine hs2.2 ?_
    rw [Bool.eq_false_iff.mpr halive]
  have hstable : calls.Stable a fun s =>
      calls.Mine a .recovery marker s ∧ s.alive l.owner = false := hmine.and (.dead l.owner)
  refine (requireLease_does hstable (.abandoned hmade) ⟨hs2.1, hdead⟩
    fun s _ _ hl _ => hl).seq (fun s3 _ hs3 => ?_) fun _ _ _ => trivial
  refine unlinkSync_does (.abandoned hmade) .true ⟨hs3.1, hs3.2 rfl⟩ fun s hs hmay => ⟨?_, trivial⟩
  obtain ⟨⟨hmarker, hdead⟩, hl⟩ := hs
  exact guar_unlinkLease hmay.1 (hl hmay.1) (.inr ⟨hdead, marker, hmade, hmarker hmay.1⟩)

lemma removeOwnMarker_does {recovery : Lease} :
    calls.Does env a mine (fun _ _ => True) (removeOwnMarker t recovery) s := by
  have hload : calls.Does env a mine (fun _ _ => True) (loadExecutionRecovery t) s :=
    .quiet (quiet_loadLeaseFile t .recovery) .true trivial
  refine hload.seq (fun s' marker _ => ?_) fun _ _ _ => trivial
  refine .lift (fun own _ => ?_) fun _ _ => .done .true trivial
  split
  · exact removeExactExecutionRecovery_does
  · exact .done .true trivial

lemma publishLease_does {slot : Slot} {m : Lease} {c : Content} (hmade : calls.Made a m)
    (hc : serializeExecutionLease m = .ok c) :
    calls.Does env a mine (fun s r => True ∧ (r = .ok true → calls.Mine a slot m s))
      (publishExclusive (.inTransaction m.transactionId slot) c) s := by
  rw [serializeExecutionLease_ok hc]
  exact publishExclusive_does .true (.mine hmade) trivial fun s h _ => h

lemma recoverLease_does {recovery : Lease} (hmade : calls.Made a recovery) :
    calls.Does env a mine (fun _ _ => True) (recoverLease recovery.transactionId recovery) s := by
  refine .lift (fun c hc => ?_) fun _ _ => .done .true trivial
  refine (publishLease_does hmade hc).seq (fun s' published hs' => ?_) fun _ _ _ => trivial
  split
  · next hpublished =>
    have hremove : calls.Does env a mine (fun _ _ => True) (removeAbandoned recovery.transactionId) s' :=
      removeAbandoned_does hmade (hs'.2 (congrArg Except.ok hpublished))
    have hattempt : calls.Does env a mine (fun _ _ => True)
        (removeAbandoned recovery.transactionId).attempt s' :=
      Safe.attempt hremove fun _ _ _ => trivial
    refine hattempt.seq (fun s'' _ _ => ?_) fun _ _ _ => trivial
    exact removeOwnMarker_does.seq (fun _ _ _ => .done .true trivial) fun _ _ _ => trivial
  · exact .done .true trivial

lemma contendLease_does {n : ℕ} (hn : n ≤ maxAttempts) :
    calls.Does env a mine (fun _ _ => True)
      (contendLease t ((calls.caller a).leaseFor t n)) s := by
  have hload : calls.Does env a mine (fun _ _ => True) (loadExecutionLease t) s :=
    .quiet (quiet_loadLeaseFile t .lease) .true trivial
  refine hload.seq (fun s' existing _ => ?_) fun _ _ _ => trivial
  cases existing with
  | none => exact .done .true trivial
  | some existing =>
  show calls.Does env a mine _ (if existing.transactionId ≠ t then _ else _) s'
  split
  · exact .done .true trivial
  have halive : calls.Does env a mine (fun _ _ => True)
      (exactExecutionOwnerIsAlive existing) s' := .quiet (.ask trivial) .true trivial
  refine halive.seq (fun s'' alive _ => ?_) fun _ _ _ => trivial
  split
  · exact .done .true trivial
  · refine .lift (fun recovery hrecovery => ?_) fun _ _ => .done .true trivial
    obtain ⟨rfl, -⟩ := normalizeExecutionLease_ok hrecovery
    exact recoverLease_does (calls.made_leaseFor hn)

def Executions.Returns (calls : Executions A V) (a : A) (lease : Lease) (s : Store)
    (r : Except Failure (Option Lease)) : Prop :=
  ∀ l, r = .ok (some l) → l = lease ∧ calls.Mine a .lease lease s

lemma attemptExecution_does {lease : Lease} {n : ℕ} (hmade : calls.Made a lease)
    (hn : n ≤ maxAttempts) :
    calls.Does env a mine (calls.Returns a lease)
      (attemptExecution lease.transactionId lease
        ((calls.caller a).leaseFor lease.transactionId n)) s := by
  have hnothing : ∀ (r : Except Failure (Option Lease)) s, (∀ l, r ≠ .ok (some l)) →
      calls.Does env a mine (calls.Returns a lease) (.done r) s :=
    fun r s hr => .done (fun _ _ _ _ l hl => absurd hl (hr l)) fun l hl => absurd hl (hr l)
  have herror : ∀ s (e : Failure), calls.Returns a lease s (.error e) := fun s e l hl => nomatch hl
  refine clearRecovery_does.seq (fun s1 _ _ => ?_) fun s e _ => herror s e
  refine .lift (fun c hc => ?_) fun e _ => hnothing _ s1 nofun
  refine (publishLease_does hmade hc).seq (fun s2 published hs2 => ?_) fun s e _ => herror s e
  split
  · next hpublished =>
    have hmine : calls.Stable a (calls.Mine a .lease lease) := .mine hmade
    have habsent : calls.Does env a mine (fun s _ => calls.Mine a .lease lease s)
        (isAbsent (.inTransaction lease.transactionId .recovery)) s2 :=
      .quiet (.seq (quiet_readPrivateFile _) fun _ => .pure) hmine
        (hs2.2 (congrArg Except.ok hpublished))
    refine habsent.seq (fun s3 absent hs3 => ?_) fun s e _ => herror s e
    split
    · refine .done (fun s s' h hs l hl => ?_) fun l hl => ?_
      · exact ⟨(hs l hl).1, hmine s s' h (hs l hl).2⟩
      · cases hl; exact ⟨rfl, hs3⟩
    · have hremove : calls.Does env a mine (fun _ _ => True)
          (removeExactExecutionLease lease.transactionId lease) s3 := by
        have hrequire : calls.Does env a mine (fun s _ => calls.Mine a .lease lease s)
            (requireExactExecutionLease lease.transactionId lease) s3 :=
          .quiet (quiet_requireExactExecutionLease _ _) hmine hs3
        refine hrequire.seq (fun s4 _ hs4 => ?_) fun _ _ _ => trivial
        refine unlinkSync_does hmine .true hs4 fun s hs hmay => ⟨?_, trivial⟩
        exact guar_unlinkLease hmay.1 (hs hmay.1) (.inl hmade)
      exact hremove.seq (fun s _ _ => hnothing _ s nofun) fun s e _ => herror s e
  · exact (contendLease_does hn).seq (fun s _ _ => hnothing _ s nofun)
      fun s e _ => herror s e

lemma attempts_does {lease : Lease} (hmade : calls.Made a lease) {n : ℕ}
    (hn : n ≤ maxAttempts) :
    calls.Does env a mine (fun s r => ∀ l, r = .ok l → l = lease ∧ calls.Mine a .lease lease s)
      (attempts (calls.caller a) lease.transactionId lease n) s := by
  induction n generalizing s with
  | zero => exact .done (fun _ _ _ _ l hl => nomatch hl) nofun
  | succ n ih =>
    refine (attemptExecution_does hmade hn).seq (fun s' got hgot => ?_) fun _ _ _ l hl => nomatch hl
    cases got with
    | none => exact ih (by omega)
    | some l =>
    refine .done (fun s s' h hs l' hl' => ?_) fun l' hl' => ?_
    · exact ⟨(hs l' hl').1, Executions.Stable.mine hmade s s' h (hs l' hl').2⟩
    · cases hl'; exact hgot l rfl

def Executions.Entered (calls : Executions A V) (a : A) (s : Store)
    (r : Except Failure (Record × Lease)) : Prop :=
  ∀ entered, r = .ok entered →
    (entered.2.transactionId = (calls.input a).transactionId ∧ calls.Made a entered.2) ∧
      calls.Mine a .lease entered.2 s

lemma acquireMutationExecution_does :
    calls.Does env a mine
      (fun s r => ∀ l, r = .ok l →
        (l.transactionId = t ∧ calls.Made a l) ∧ calls.Mine a .lease l s)
      (acquireMutationExecution (calls.caller a) t) s := by
  have herror : ∀ (e : Failure) s, calls.Does env a mine
      (fun s r => ∀ l, r = .ok l →
        (l.transactionId = t ∧ calls.Made a l) ∧ calls.Mine a .lease l s)
      (.done (.error e)) s :=
    fun e s => .done (fun _ _ _ _ l hl => nomatch hl) nofun
  have hload : calls.Does env a mine (fun _ _ => True) (loadTransaction t) s :=
    .quiet (quiet_loadTransaction t) .true trivial
  refine hload.seq (fun s1 current _ => ?_) fun _ _ _ l hl => nomatch hl
  split
  · exact herror _ s1
  have hmkdir : calls.Does env a mine (fun _ _ => True) (mkdirSync t) s1 :=
    .quiet (.ask trivial) .true trivial
  refine hmkdir.seq (fun s2 _ _ => ?_) fun _ _ _ l hl => nomatch hl
  refine .lift (fun lease hlease => ?_) fun e _ => herror e s2
  obtain ⟨rfl, -⟩ := normalizeExecutionLease_ok hlease
  have hmade : calls.Made a ((calls.caller a).leaseFor t 0) := calls.made_leaseFor (Nat.zero_le _)
  refine Safe.mono (attempts_does hmade le_rfl) fun s r hr l hl => ?_
  obtain ⟨rfl, hmine⟩ := hr l hl; exact ⟨⟨rfl, hmade⟩, hmine⟩

theorem enterExecution_does :
    calls.Does env a none (calls.Entered a) (enterExecution (calls.caller a) (calls.input a)) s := by
  have hrequire : calls.Does env a none (fun _ _ => True)
      (requireExpectedLifecycle (calls.input a)) s :=
    .quiet (quiet_requireExpectedLifecycle _) .true trivial
  refine hrequire.seq (fun s1 current _ => ?_) fun _ _ _ entered h => nomatch h
  split
  · exact .done (fun _ _ _ _ _ h => by cases h) fun _ h => by cases h
  have hauthorize : calls.Does env a none (fun _ _ => True)
      (authorizeMutation (calls.input a).transactionId) s1 :=
    .quiet (quiet_authorizeMutation _) .true trivial
  refine hauthorize.seq (fun s2 authorized _ => ?_) fun _ _ _ entered h => nomatch h
  refine acquireMutationExecution_does.seq (fun s3 lease hlease => ?_) fun _ _ _ entered h => nomatch h
  obtain ⟨hown, hmine⟩ := hlease lease rfl
  refine .done (fun s s' h hs entered hentered => ?_) fun entered hentered => ?_
  · exact ⟨(hs entered hentered).1, Executions.Stable.mine (hs entered hentered).1.2 s s' h
      (hs entered hentered).2⟩
  · cases hentered; exact ⟨hown, hmine⟩

/-! ## Phases -/

lemma parsePhase_some {phase : Phase} {v : Option Content} {record : Record}
    (h : parsePhase phase v = .ok (some record)) :
    v = some (.record record) ∧ record.Exact ∧ record.phase = phase := by
  cases v with
  | none => cases h
  | some c =>
  obtain ⟨r, hr, h⟩ := bind_eq_ok.mp h
  have hcase : r.phase = phase ∧ r = record := by
    split at h
    · cases h
    · next hphase => exact ⟨not_not.mp hphase, (some.inj (pure_eq_ok.mp h)).symm⟩
  obtain ⟨hphase, rfl⟩ := hcase
  obtain ⟨rfl, hexact⟩ := parse_ok hr; exact ⟨rfl, hexact, hphase⟩

lemma currentPhase_ok {prepared record : Record} {authorized completed : Option Record}
    (h : currentPhase prepared authorized completed = .ok record) :
    record = prepared ∧ authorized = none ∧ completed = none ∨
      (authorized = some record ∧ completed = none ∨ completed = some record) ∧
        requireSameLifecycle prepared record = .ok () := by
  cases authorized with
  | none =>
    cases completed with
    | none => exact .inl ⟨(Except.ok.inj h).symm, rfl, rfl⟩
    | some completed => cases h
  | some authorized =>
    cases completed with
    | none =>
      obtain ⟨⟨⟩, hsame, h⟩ := bind_eq_ok.mp h
      obtain rfl := pure_eq_ok.mp h; exact .inr ⟨.inl ⟨rfl, rfl⟩, hsame⟩
    | some completed =>
      obtain ⟨⟨⟩, -, h⟩ := bind_eq_ok.mp h
      obtain ⟨⟨⟩, hsame, h⟩ := bind_eq_ok.mp h
      obtain rfl := pure_eq_ok.mp h; exact .inr ⟨.inr rfl, hsame⟩

lemma exactPrepared_ok {v : Option Record} {prepared : Record}
    (h : exactPrepared t v = .ok prepared) : v = some prepared ∧ prepared.transactionId = t := by
  cases v with
  | none => cases h
  | some record =>
  simp only [exactPrepared] at h
  split at h
  · cases h
  · next hid =>
    cases h; exact ⟨rfl, not_not.mp hid⟩

/-- `P` all along, and at the end `Q` of what is returned. -/
def Gives {α : Type} (P : Store → Prop) (Q : Store → α → Prop) (s : Store)
    (r : Except Failure α) : Prop := P s ∧ ∀ x, r = .ok x → Q s x

lemma Gives.error {α : Type} {Q : Store → α → Prop} {e : Failure} (h : P s) :
    Gives P Q s (.error e) := ⟨h, nofun⟩

lemma Executions.Does.returned {α : Type} {Q : Store → α → Prop} {r : Except Failure α}
    (hP : calls.Stable a P) (hQ : ∀ x, calls.Stable a fun s => Q s x) (hs : P s)
    (h : ∀ x, r = .ok x → Q s x) : calls.Does env a mine (Gives P Q) (.done r) s :=
  .done (fun s s' hrely hs => ⟨hP s s' hrely hs.1, fun x hx => hQ x s s' hrely (hs.2 x hx)⟩) ⟨hs, h⟩

lemma loadPhase_does {phase : Phase} (hP : calls.Stable a P) (hs : P s) :
    calls.Does env a mine
      (Gives P fun s v => ∀ record, v = some record →
        s.contents (.inTransaction t (.phase phase)) = some (.record record) ∧
          record.Exact ∧ record.phase = phase)
      (loadPhase t phase) s := by
  have hR : ∀ v : Option Content, calls.Stable a fun s =>
      ∀ c, v = some c → s.contents (.inTransaction t (.phase phase)) = some c :=
    fun v s s' h hs c hc => h.phases t phase c (hs c hc)
  refine (readPrivateFile_does hP hR hs fun s _ _ c hc => hc).seq (fun s' v hs' => ?_)
    fun _ _ h => .error h.1
  refine .returned hP (fun v s s' h hs record hrecord => ?_) hs'.1 fun v' hv' record hrecord => ?_
  · exact ⟨h.phases t phase _ (hs record hrecord).1, (hs record hrecord).2⟩
  · rw [hrecord] at hv'
    obtain ⟨hv, hexact⟩ := parsePhase_some hv'; exact ⟨hs'.2 v rfl _ hv, hexact⟩

lemma loadTransaction_does (hP : calls.Stable a P) (hs : P s) :
    calls.Does env a mine
      (Gives P fun s v => ∀ record, v = some record →
        record.transactionId = t ∧ (record.phase = .completed → Recorded t record s))
      (loadTransaction t) s := by
  have hfailed : ∀ (e : Failure) s, P s → calls.Does env a mine
      (Gives P fun s (v : Option Record) => ∀ record, v = some record →
        record.transactionId = t ∧ (record.phase = .completed → Recorded t record s))
      (.done (.error e)) s := fun e s hs => .failed hP hs
  refine .lift (fun _ _ => ?_) fun e _ => hfailed e s hs
  have hlstat : calls.Does env a mine (fun s _ => P s) (lstatSync t) s :=
    .quiet (.ask trivial) hP hs
  refine hlstat.seq (fun s1 present hs1 => ?_) fun _ _ h => .error h
  have hstable : ∀ v : Option Record, calls.Stable a fun s => ∀ record, v = some record →
      record.transactionId = t ∧ (record.phase = .completed → Recorded t record s) :=
    fun v s s' h hs record hrecord =>
      ⟨(hs record hrecord).1, fun hphase => h.phases _ _ _ ((hs record hrecord).2 hphase)⟩
  split
  · refine (loadPhase_does hP hs1).seq (fun s2 prepared hs2 => ?_) fun _ _ h => .error h.1
    refine .lift (fun prepared' hprepared => ?_) fun e _ => hfailed e s2 hs2.1
    obtain ⟨rfl, rfl⟩ := exactPrepared_ok hprepared
    obtain ⟨-, hexact, hphase⟩ := hs2.2 _ rfl prepared' rfl
    refine (loadPhase_does hP hs2.1).seq (fun s3 authorized hs3 => ?_) fun _ _ h => .error h.1
    have hauthorized := hs3.2 authorized rfl
    refine (loadPhase_does hP hs3.1).seq (fun s4 completed hs4 => ?_) fun _ _ h => .error h.1
    have hcompleted := hs4.2 completed rfl
    refine .returned hP hstable hs4.1 fun v hv record hrecord => ?_
    have hcurrent : currentPhase prepared' authorized completed = .ok record := by
      cases hc : currentPhase prepared' authorized completed with
      | ok r =>
        rw [hc] at hv
        cases hv
        rw [some.inj hrecord]
      | error e => rw [hc] at hv; cases hv
    rcases currentPhase_ok hcurrent with ⟨rfl, -⟩ | ⟨⟨rfl, -⟩ | rfl, hsame⟩
    · exact ⟨rfl, fun h => by rw [hphase] at h; cases h⟩
    · obtain ⟨-, hexact', hphase'⟩ := hauthorized record rfl
      have hid := congrArg Record.transactionId
        (immutable_of_requireSameLifecycle hexact hexact' hsame)
      exact ⟨hid.symm, fun h => by rw [hphase'] at h; cases h⟩
    · obtain ⟨hfile, hexact', -⟩ := hcompleted record rfl
      have hid := congrArg Record.transactionId
        (immutable_of_requireSameLifecycle hexact hexact' hsame)
      exact ⟨hid.symm, fun _ => hfile⟩
  · refine .returned hP hstable hs1 fun v hv record hrecord => ?_
    cases hv; cases hrecord

lemma publishPhase_does {record : Record} (hexact : record.Exact)
    (hphase : record.phase = .completed) (hP : calls.Stable a P) (hs : P s) :
    calls.Does env a mine (Gives P fun s r => Recorded record.transactionId r s)
      (publishPhase record) s := by
  have hfailed : ∀ (e : Failure) s, P s → calls.Does env a mine
      (Gives P fun s r => Recorded record.transactionId r s) (.done (.error e)) s :=
    fun e s hs => .failed hP hs
  have hstable : ∀ r, calls.Stable a fun s => Recorded record.transactionId r s :=
    fun r => .recorded _ r
  refine .lift (fun _ _ => ?_) fun e _ => hfailed e s hs
  have hmkdir : calls.Does env a mine (fun s _ => P s) (mkdirSync record.transactionId) s :=
    .quiet (.ask trivial) hP hs
  refine hmkdir.seq (fun s1 _ hs1 => ?_) fun _ _ h => .error h
  refine .lift (fun c hc => ?_) fun e _ => hfailed e s1 hs1
  rw [hexact.serialize] at hc
  cases hc
  rw [hphase]
  have hpublish : calls.Does env a mine
      (fun s r => P s ∧ (r = .ok true → Recorded record.transactionId record s))
      (publishExclusive (.inTransaction record.transactionId (.phase .completed))
        (.record record)) s1 :=
    publishExclusive_does hP (hstable record) hs1 fun s h => h
  refine hpublish.seq (fun s2 published hs2 => ?_) fun _ _ h => .error h.1
  split
  · next hpublished =>
    refine .returned hP hstable hs2.1 fun r hr => ?_
    cases hr; exact hs2.2 (congrArg Except.ok hpublished)
  · refine (loadPhase_does hP hs2.1).seq (fun s3 existing hs3 => ?_) fun _ _ h => .error h.1
    cases existing with
    | none => exact hfailed _ s3 hs3.1
    | some existing =>
    refine .lift (fun text _ => ?_) fun e _ => hfailed e s3 hs3.1
    split
    · refine .returned hP hstable hs3.1 fun r hr => ?_
      cases hr
      have hfile := (hs3.2 _ rfl existing rfl).1
      rw [hphase] at hfile; exact hfile
    · exact hfailed _ s3 hs3.1

abbrev Completes (lease : Lease) (s : Store) (record : Record) : Prop :=
  Recorded lease.transactionId record s

lemma complete_does {lease : Lease} {digest : String} (hP : calls.Stable a P) (hs : P s) :
    calls.Does env a mine (Gives P (Completes lease)) (complete lease digest) s := by
  have hfailed : ∀ (e : Failure) s, P s →
      calls.Does env a mine (Gives P (Completes lease)) (.done (.error e)) s :=
    fun e s hs => .failed hP hs
  have hstable : ∀ r, calls.Stable a fun s => Completes lease s r := fun r => .recorded _ r
  refine .lift (fun execution hexecution => ?_) fun e _ => hfailed e s hs
  obtain ⟨rfl, -⟩ := normalizeExecutionLease_ok hexecution
  have hrequire : calls.Does env a mine (fun s _ => P s)
      (requireExactExecutionLease execution.transactionId execution) s :=
    .quiet (quiet_requireExactExecutionLease _ _) hP hs
  refine hrequire.seq (fun s1 _ hs1 => ?_) fun _ _ h => .error h
  refine .lift (fun result _ => ?_) fun e _ => hfailed e s1 hs1
  refine (loadTransaction_does hP hs1).seq (fun s2 current hs2 => ?_) fun _ _ h => .error h.1
  cases current with
  | none => exact hfailed _ s2 hs2.1
  | some current =>
  obtain ⟨hid, hrecorded⟩ := hs2.2 _ rfl current rfl
  cases hphase : current.phase with
  | prepared => simp only [completeFrom, hphase]; exact hfailed _ s2 hs2.1
  | completed =>
    simp only [completeFrom, hphase]
    split
    · refine .returned hP hstable hs2.1 fun r hr => ?_
      cases hr; exact hrecorded hphase
    · exact hfailed _ s2 hs2.1
  | mutationAuthorized =>
    simp only [completeFrom, hphase]
    refine .lift (fun record hrecord => ?_) fun e _ => hfailed e s2 hs2.1
    obtain ⟨-, resources, hr, -⟩ := normalize_inv hrecord
    have hid' : record.transactionId = execution.transactionId := by
      rw [hr]; exact hid
    have hcompleted : record.phase = .completed := by rw [hr]
    refine Safe.mono (publishPhase_does (normalize_exact hrecord) hcompleted hP hs2.1)
      fun s r hgives => ⟨hgives.1, fun x hx => ?_⟩
    show Recorded execution.transactionId x s
    rw [← hid']; exact hgives.2 x hx

section Inside

variable {lease : Lease}

section

variable (hmade : calls.Made a lease)
include hmade

section

variable (hs : calls.Mine a .lease lease s)
include hs

/-- A command is given to the engine with the lease in place. -/
lemma capture_does {record : Record} {request : CaptureRequest} :
    calls.Does env a (some lease) (fun s _ => calls.Mine a .lease lease s)
      (capture (calls.input a) record lease request).attempt s := by
  have hmine : calls.Stable a (calls.Mine a .lease lease) := .mine hmade
  suffices hcaptured : calls.Does env a (some lease) (fun s _ => calls.Mine a .lease lease s)
      (capture (calls.input a) record lease request) s from
    Safe.attempt hcaptured fun _ _ h => h
  refine .lift (fun args _ => ?_) fun e _ => .done hmine hs
  have hguard : ∀ s, calls.Mine a .lease lease s → calls.Does env a (some lease)
      (fun s _ => calls.Mine a .lease lease s) (guardScope (calls.input a) lease) s :=
    fun s hs => .quiet (quiet_guardScope _ _) hmine hs
  refine (hguard s hs).seq (fun s1 _ hs1 => ?_) fun _ _ h => h
  have hcapture : ∀ command, calls.Does env a (some lease)
      (fun s _ => calls.Mine a .lease lease s) (captureCommand command) s1 := by
    intro command
    refine .ask (fun s' h hmay => ?_) fun _ => hmine
    have hs' : calls.Mine a .lease lease s' := hmine _ _ h hs1
    refine ⟨⟨fun b _ => ?_, fun _ _ _ hc => hc, rfl, .inr ⟨lease, rfl, hs' hmay.1⟩⟩, hs'⟩
    exact ⟨fun _ h => h, fun _ _ _ h => h, fun _ _ _ _ _ h => h, fun _ _ _ _ _ _ h _ => h⟩
  refine (hcapture _).seq (fun s2 outcome hs2 => ?_) fun _ _ h => h
  have hattempt : calls.Does env a (some lease) (fun s _ => calls.Mine a .lease lease s)
      (guardScope (calls.input a) lease).attempt s2 :=
    Safe.attempt (hguard s2 hs2) fun _ _ h => h
  exact hattempt.seq (fun s3 _ hs3 => .done hmine hs3) fun _ _ h => h

lemma authorizedScope_does {record : Record} {mutate : Mutation V} :
    calls.Does env a (some lease) (fun s _ => calls.Mine a .lease lease s)
      (authorizedScope (calls.input a) record lease mutate) s := by
  induction mutate generalizing s with
  | done r => exact .done (.mine hmade) hs
  | call request k ih =>
    exact (capture_does hmade hs).seq (fun s' x hs' => ih x hs') fun _ _ h => h

lemma mutateAndComplete_does {authorized : Record} {mutate : Mutation V} :
    calls.Does env a (some lease)
      (Gives (calls.Mine a .lease lease) fun s completion => Completes lease s completion.record)
      (mutateAndComplete (calls.input a) mutate authorized lease) s := by
  have hmine : calls.Stable a (calls.Mine a .lease lease) := .mine hmade
  refine (authorizedScope_does hmade hs).seq (fun s1 result hs1 => ?_) fun _ _ h => .error h
  refine .lift (fun digest _ => ?_) fun e _ => .failed hmine hs1
  have hrequire : calls.Does env a (some lease) (fun s _ => calls.Mine a .lease lease s)
      (requireExpectedLifecycle (calls.input a)) s1 :=
    .quiet (quiet_requireExpectedLifecycle _) hmine hs1
  refine hrequire.seq (fun s2 after hs2 => ?_) fun _ _ h => .error h
  split
  · exact .failed hmine hs2
  have hassert : calls.Does env a (some lease) (fun s _ => calls.Mine a .lease lease s)
      (assertMutationExecution lease) s2 :=
    .quiet (quiet_assertMutationExecution lease) hmine hs2
  refine hassert.seq (fun s3 _ hs3 => ?_) fun _ _ h => .error h
  refine (complete_does hmine hs3).seq (fun s4 record hs4 => ?_) fun _ _ h => .error h.1
  refine .returned hmine (fun completion => .recorded _ _) hs4.1 fun completion hc => ?_
  cases hc; exact hs4.2 record rfl

/-- The own lease is removed; what is on record stays. -/
lemma releaseQuietly_does {Q : Store → Prop} (hQ : calls.Stable a Q) (hQs : Q s)
    (hunlink : ∀ s, Q s →
      Q (s.exec env (.file (.unlink (.inTransaction lease.transactionId .lease)))).1) :
    calls.Does env a mine (fun s _ => Q s) (releaseQuietly lease) s := by
  have hmine : calls.Stable a (calls.Mine a .lease lease) := .mine hmade
  have hrelease : calls.Does env a mine (fun s _ => Q s) (releaseMutationExecution lease) s := by
    refine .lift (fun expected hexpected => ?_) fun e _ => .done hQ hQs
    obtain ⟨rfl, -⟩ := normalizeExecutionLease_ok hexpected
    have hload : calls.Does env a mine (fun s _ => calls.Mine a .lease expected s ∧ Q s)
        (loadTransaction expected.transactionId) s :=
      .quiet (quiet_loadTransaction _) (hmine.and hQ) ⟨hs, hQs⟩
    refine hload.seq (fun s1 current hs1 => ?_) fun _ _ h => h.2
    cases current with
    | none => exact .done hQ hs1.2
    | some current =>
    have hrequire : calls.Does env a mine (fun s _ => calls.Mine a .lease expected s ∧ Q s)
        (requireExactExecutionLease expected.transactionId expected) s1 :=
      .quiet (quiet_requireExactExecutionLease _ _) (hmine.and hQ) hs1
    refine hrequire.seq (fun s2 _ hs2 => ?_) fun _ _ h => h.2
    refine unlinkSync_does (hmine.and hQ) hQ hs2 fun s hs hmay => ⟨?_, hunlink s hs.2⟩
    exact guar_unlinkLease hmay.1 (hs.1 hmay.1) (.inl hmade)
  have hattempt : calls.Does env a mine (fun s _ => Q s) (releaseMutationExecution lease).attempt s :=
    Safe.attempt hrelease fun _ _ h => h
  exact hattempt.seq (fun s' _ hs' => .done hQ hs') fun _ _ h => h

end

end

def Ended (lease : Lease) (s : Store) (r : Except Failure (Completion V)) : Prop :=
  ∀ completion, r = .ok completion → Completes lease s completion.record

theorem insideExecution_does {authorized : Record} {mutate : Mutation V}
    (hmade : calls.Made a lease) (hs : calls.Mine a .lease lease s) :
    calls.Does env a (some lease) (Ended lease)
      (insideExecution (calls.input a) mutate authorized lease) s := by
  have hended : ∀ r : Except Failure (Completion V), calls.Stable a fun s => Ended lease s r :=
    fun r s s' h hs completion hc => h.phases _ _ _ (hs completion hc)
  have hattempt : calls.Does env a (some lease)
      (fun s r => ∀ x, r = .ok x → calls.Mine a .lease lease s ∧ Ended lease s x)
      (mutateAndComplete (calls.input a) mutate authorized lease).attempt s := by
    refine Safe.attempt (mutateAndComplete_does hmade hs) fun s r hr x hx => ?_
    cases hx; exact hr
  refine Executions.Does.seq hattempt (fun s1 r hr => ?_) fun _ _ _ _ h => nomatch h
  obtain ⟨hs1, hr⟩ := hr r rfl
  refine (releaseQuietly_does hmade hs1 (hended r) hr fun s hs completion hc => ?_).seq
    (fun s2 _ hs2 => .done (hended r) hs2) fun _ _ h completion hc => nomatch hc
  have hne : Name.inTransaction lease.transactionId (.phase .completed) ≠
      .inTransaction lease.transactionId .lease := nofun
  exact (contents_unlink hne).trans (hs completion hc)

end Inside

end Programs

section Runs

variable {A V : Type} [DecidableEq A] {calls : Executions A V} {env : Environment} {a : A}
  {s s' : Store} {w w' : World A V}

def Executions.Knows (calls : Executions A V) (env : Environment) (a : A) (s : Store) :
    Stage V → Prop
  | .entering t => calls.Does env a none (calls.Entered a) t s
  | .inside lease t =>
    (lease.transactionId = (calls.input a).transactionId ∧ calls.Made a lease) ∧
      calls.Does env a (some lease) (Ended lease) t s

omit [DecidableEq A] in
lemma stageOf_knows {t : Program (Record × Lease)}
    (h : calls.Does env a none (calls.Entered a) t s) :
    calls.Knows env a s (calls.stageOf a t) := by
  match t with
  | .done (.ok (authorized, lease)) =>
    obtain ⟨hown, hmine⟩ := h s .refl (authorized, lease) rfl
    exact ⟨hown, insideExecution_does hown.2 hmine⟩
  | .done (.error e) => exact h
  | .call q k => exact h

omit [DecidableEq A] in
lemma Executions.Knows.frame {stage : Stage V} (hrely : calls.Rely a s s')
    (h : calls.Knows env a s stage) : calls.Knows env a s' stage := by
  cases stage with
  | entering t => exact Safe.stable (fun h h' => h.trans h') hrely h
  | inside lease t => exact ⟨h.1, Safe.stable (fun h h' => h.trans h') hrely h.2⟩

lemma exec_lease {q : Request} (hq : q.releases = false) {t : String} {c : Content}
    (h : s.contents (.inTransaction t .lease) = some c) :
    (s.exec env q).1.contents (.inTransaction t .lease) = some c := by
  cases q with
  | file q =>
    cases q with
    | unlink x =>
      have hne : Name.inTransaction t .lease ≠ x := by
        rintro rfl; cases hq
      rw [contents_unlink hne, h]
    | rename x n c' =>
      have hne : Name.inTransaction t .lease ≠ x := by
        rintro rfl; cases hq
      show ((s.files.files.insert x ⟨c', []⟩).lookup _).map (·.content) = some c
      rw [AList.lookup_insert_ne hne]; exact h
    | _ =>
      refine (Store.exec_grows ?_).contents _ _ h
      trivial
  | capture command => exact h
  | _ =>
    refine (Store.exec_grows ?_).contents _ _ h
    trivial

structure Executions.Inv (calls : Executions A V) (env : Environment) (w : World A V) : Prop where
  stage : ∀ a, calls.Live a w.store → calls.Knows env a w.store (w.stage a)
  held : ∀ a lease, calls.Live a w.store → w.held a = some lease → calls.Made a lease ∧
    w.store.contents (.inTransaction lease.transactionId .lease) = some (.lease lease)
  completed : ∀ a lease completion, w.stage a = .inside lease (.done (.ok completion)) →
    lease.transactionId = (calls.input a).transactionId ∧
      Completes lease w.store completion.record

lemma Executions.Inv.update (hinv : calls.Inv env w) (ha : calls.Live a w.store) {s : Store}
    {stage : Stage V} {held : A → Option Lease}
    (hguar : calls.Guar a (w.stage a).lease w.store s) (hknows : calls.Knows env a s stage)
    (hheldOthers : ∀ b, b ≠ a → held b = w.held b)
    (hheld : ∀ lease, held a = some lease → calls.Made a lease ∧
      s.contents (.inTransaction lease.transactionId .lease) = some (.lease lease)) :
    calls.Inv env ⟨s, Function.update w.stage a stage, held⟩ := by
  have hlive : ∀ b, calls.Live b s → calls.Live b w.store := by
    intro b hb
    unfold Executions.Live at hb ⊢; rwa [hguar.alive] at hb
  refine ⟨fun b hb => ?_, fun b lease hb hlease => ?_, fun b lease completion hstage => ?_⟩
  · show calls.Knows env b s (Function.update w.stage a stage b)
    by_cases hba : b = a
    · subst hba
      rw [update_self]; exact hknows
    · rw [update_of_ne hba]
      exact (hinv.stage b (hlive b hb)).frame (hguar.others b hba)
  · by_cases hba : b = a
    · subst hba; exact hheld lease hlease
    · have hlease' : w.held b = some lease := (hheldOthers b hba).symm.trans hlease
      obtain ⟨hmade, hfile⟩ := hinv.held b lease (hlive b hb) hlease'
      exact ⟨hmade, (hguar.others b hba).held hb _ _ lease hmade hfile⟩
  · have hnew : Function.update w.stage a stage b = .inside lease (.done (.ok completion)) := hstage
    by_cases hba : b = a
    · subst hba
      rw [update_self] at hnew
      subst hnew
      exact ⟨hknows.1.1, hknows.2 s .refl completion rfl⟩
    · rw [update_of_ne hba] at hnew
      obtain ⟨hid, hcompletes⟩ := hinv.completed b lease completion hnew
      exact ⟨hid, hguar.phases _ _ _ hcompletes⟩

lemma Executions.Inv.take (hinv : calls.Inv env w) (ha : calls.Live a w.store)
    (hkept : calls.MarkerKept w (.call a)) (h : calls.take env w a = some w') :
    calls.Inv env w' ∧ calls.Guar a (w.stage a).lease w.store w'.store := by
  have hknows := hinv.stage a ha
  have hmay : ∀ q, (w.stage a).request = some q → calls.May a w.store q :=
    fun q hq => ⟨ha, hkept q hq⟩
  unfold Executions.take at h
  cases hstage : w.stage a with
  | entering t =>
    cases t with
    | done r => simp only [hstage] at h; cases h
    | call q k =>
    rw [hstage] at hknows hmay
    simp only [hstage] at h; obtain rfl := some.inj h
    obtain ⟨hguar, hrest⟩ := hknows w.store .refl (hmay q rfl)
    have hnext := stageOf_knows hrest
    refine ⟨hinv.update ha (by rw [hstage]; exact hguar) hnext
      (fun b hb => update_of_ne hb _ _) fun lease hlease => ?_, hguar⟩
    rw [update_self] at hlease
    -- the call has just returned with the lease
    match hk : k (w.store.exec env q).2 with
    | .done (.ok (authorized, lease')) =>
      rw [hk] at hlease hrest
      obtain rfl := some.inj hlease
      obtain ⟨hown, hmine⟩ := hrest _ .refl (authorized, lease') rfl
      refine ⟨hown.2, hmine ?_⟩
      unfold Executions.Live at ha ⊢; rwa [hguar.alive]
    | .done (.error e) => rw [hk] at hlease; cases hlease
    | .call q' k' => rw [hk] at hlease; cases hlease
  | inside lease t =>
    cases t with
    | done r => simp only [hstage] at h; cases h
    | call q k =>
    rw [hstage] at hknows hmay
    simp only [hstage] at h; obtain rfl := some.inj h
    obtain ⟨hguar, hrest⟩ := hknows.2 w.store .refl (hmay q rfl)
    refine ⟨hinv.update ha (by rw [hstage]; exact hguar) ⟨hknows.1, hrest⟩ ?_ ?_, hguar⟩
    · intro b hb
      split
      · exact update_of_ne hb _ _
      · rfl
    · intro lease' hlease
      split at hlease
      · rw [update_self] at hlease; cases hlease
      · next hreleases =>
        obtain ⟨hmade, hfile⟩ := hinv.held a lease' ha hlease
        exact ⟨hmade, exec_lease (Bool.eq_false_iff.mpr hreleases) hfile⟩

omit [DecidableEq A] in
lemma rely_crash (owner : Owner) :
    calls.Rely a s { s with alive := Function.update s.alive owner false } where
  dead := by
    intro owner' hdead
    by_cases ho : owner' = owner
    · subst ho; exact update_self ..
    · exact (update_of_ne ho _ _).trans hdead
  phases := fun _ _ _ h => h
  held := fun _ _ _ _ _ h => h
  gated := fun _ _ _ _ _ _ h _ => h

lemma Executions.Inv.step (hinv : calls.Inv env w) {event : Event A}
    (hkept : calls.MarkerKept w event) (h : calls.step env w event = some w') :
    calls.Inv env w' := by
  cases event with
  | call a =>
    simp only [Executions.step] at h
    split at h
    · next ha => exact (hinv.take ha hkept h).1
    · cases h
  | crash owner =>
    cases h
    have hlive : ∀ a, calls.Live a { w.store with alive := Function.update w.store.alive owner false } →
        calls.Live a w.store := by
      intro a ha
      have hrely : calls.Rely a w.store _ := rely_crash owner
      exact ha.before hrely.dead
    refine ⟨fun a ha => ?_, fun a lease ha hlease => ?_, fun a lease completion hstage => ?_⟩
    · exact (hinv.stage a (hlive a ha)).frame (rely_crash owner)
    · exact hinv.held a lease (hlive a ha) hlease
    · exact hinv.completed a lease completion hstage

omit [DecidableEq A] in
lemma inv_start (s : Store) : calls.Inv env (calls.start s) := by
  refine ⟨fun a _ => stageOf_knows enterExecution_does, fun a lease _ h => (nomatch h), ?_⟩
  intro a lease completion hstage
  -- a call begins with a request
  cases hstage

/-- However any number of calls interleave and wherever their processes stop, from any
store: if no recovery marker of another live call is removed, one live call at most has
the lease of a transaction, each command is given to the engine by a call whose lease file
is in place, and the completions of a transaction have one record. -/
theorem executePersistedEngineLifecycle_exclusive {s : Store} {events : List (Event A)}
    (hrun : run (calls.step env) (calls.start s) events = some w)
    (hkept : Along (calls.step env) calls.MarkerKept (calls.start s) events) :
    (∀ t a b, calls.Holds w t a → calls.Holds w t b → a = b) ∧
      (∀ event w', calls.step env w event = some w' → calls.MarkerKept w event →
        w'.store.issued ≠ w.store.issued → ∃ a lease, event = .call a ∧
          (w.stage a).lease = some lease ∧ calls.Made a lease ∧
          w.store.contents (.inTransaction lease.transactionId .lease) = some (.lease lease)) ∧
      ∀ a b leaseA leaseB completionA completionB,
        w.stage a = .inside leaseA (.done (.ok completionA)) →
        w.stage b = .inside leaseB (.done (.ok completionB)) →
        (calls.input a).transactionId = (calls.input b).transactionId →
          completionA.record.resultSha256 = completionB.record.resultSha256 := by
  have hinv : calls.Inv env w :=
    hkept.invariant hrun (fun _ _ _ hstep hcond h => h.step hcond hstep) (inv_start s)
  refine ⟨?_, ?_, ?_⟩
  · intro t a b ha hb
    obtain ⟨ha, lease, hlease, hid⟩ := ha
    obtain ⟨hb, lease', hlease', hid'⟩ := hb
    obtain ⟨hmade, hfile⟩ := hinv.held a lease ha hlease
    obtain ⟨hmade', hfile'⟩ := hinv.held b lease' hb hlease'
    rw [hid] at hfile
    rw [hid', hfile] at hfile'
    obtain rfl := Content.lease.inj (some.inj hfile')
    exact hmade.unique hmade'
  · intro event w' hstep hcond hissued
    cases event with
    | crash owner => obtain rfl := some.inj hstep; exact absurd rfl hissued
    | call a =>
      simp only [Executions.step] at hstep
      split at hstep
      · next ha =>
        have hguar := (hinv.take ha hcond hstep).2
        rcases hguar.issued with hsame | ⟨lease, hlease, hfile⟩
        · exact absurd hsame hissued
        have hknows := hinv.stage a ha
        cases hstage : w.stage a with
        | entering t => rw [hstage] at hlease; cases hlease
        | inside lease' t =>
          rw [hstage] at hlease hknows
          obtain rfl := some.inj hlease
          exact ⟨a, lease', rfl, by rw [hstage]; rfl, hknows.1.2, hfile⟩
      · cases hstep
  · intro a b leaseA leaseB completionA completionB hA hB hid
    obtain ⟨hidA, hfileA⟩ := hinv.completed a leaseA completionA hA
    obtain ⟨hidB, hfileB⟩ := hinv.completed b leaseB completionB hB
    have hsame : leaseA.transactionId = leaseB.transactionId := by rw [hidA, hidB, hid]
    unfold Completes Recorded at hfileA hfileB
    rw [hsame, hfileB] at hfileA
    rw [Content.record.inj (some.inj hfileA)]

end Runs

def digest : String := "0123456789abcdef0123456789abcdef0123456789abcdef0123456789abcdef"

def exampleAuthority : EngineAuthority :=
  ⟨"mxc", .sandboxLifecycle, "mxc", "mxc-endpoint:7", digest⟩

def exampleInput : Input where
  transactionId := digest
  action := .backup
  sandboxName := "alpha"
  resources := [⟨.source, "mxc-session:5"⟩]
  runtimeStateSha256 := digest
  providerId := "mxc"
  bindingSha256 := digest
  engine := ⟨.sandboxLifecycle, "mxc", "mxc-endpoint:7"⟩

def exampleEnvironment : Environment where
  authority := fun _ => .ok (some exampleAuthority)
  engine := fun _ => .ok ⟨0, "", ""⟩
  changes := fun _ => false

def emptyStore : Store := ⟨[], Files.empty, fun _ => true, [], 0⟩

def preparedStore : Store :=
  ((preparePersistedEngineLifecycle exampleInput).finish (Store.exec exampleEnvironment)
    emptyStore).1

def uuidOf (a m : Fin 4) : Uuid :=
  ⟨"00000000-0000-4000-8000-0000000000" ++ toString a.val ++ toString m.val, by
    revert a m
    decide +kernel⟩

def exampleMutation : Mutation Unit :=
  .call ⟨false, .source, fun runtimeId => ⟨["backup", runtimeId], 1⟩, none⟩
    fun _ => .done (.ok ⟨digest, ()⟩)

def ownerOf (a : Fin 4) : Owner := ⟨a.val + 1, "linux:4711"⟩

/-- Four processes that carry the same transaction out. -/
def four : Executions (Fin 4) Unit where
  caller := fun a => ⟨ownerOf a, fun m => uuidOf a (Fin.ofNat 4 m)⟩
  input := fun _ => exampleInput
  mutate := fun _ => exampleMutation
  unique := by
    intro a b m n h
    have hdistinct : ∀ a b m n : Fin 4, (uuidOf a m).val = (uuidOf b n).val → a = b := by
      decide +kernel
    exact hdistinct a b _ _ (congrArg Subtype.val h)

/-- The process makes its next requests. -/
def goes (a : Fin 4) (n : ℕ) : List (Event (Fin 4)) := List.replicate n (.call a)

/-- Process 0 stops with the lease, and process 1 at the start of a recovery. -/
def leaveBoth : List (Event (Fin 4)) :=
  goes 0 32 ++ .crash (ownerOf 0) :: goes 1 34 ++ [.crash (ownerOf 1)]

/-- Process 2 finds both, recovers and carries the transaction out. -/
def recoverAlone : List (Event (Fin 4)) := leaveBoth ++ goes 2 130

/-- Process 2 removes the marker that process 3 has put there, recovers the lease and has its own,
which process 3 removes. -/
def recoverTwice : List (Event (Fin 4)) :=
  leaveBoth ++ goes 2 26 ++ goes 3 44 ++ goes 2 31 ++ goes 3 9

theorem executePersistedEngineLifecycle_recovered :
    ∃ w, run (four.step exampleEnvironment) (four.start preparedStore) recoverAlone = some w ∧
      w.store.issued = [⟨false, ["backup", "mxc-session:5"], none⟩] ∧
      ∀ t a b, four.Holds w t a → four.Holds w t b → a = b := by
  have hend : (run (four.step exampleEnvironment) (four.start preparedStore) recoverAlone).map
      (·.store.issued) = some [⟨false, ["backup", "mxc-session:5"], none⟩] := by
    decide +kernel
  obtain ⟨w, hrun, hw⟩ := map_eq_some_iff.mp hend
  have hkept : Along (four.step exampleEnvironment) four.MarkerKept (four.start preparedStore)
      recoverAlone := by
    decide +kernel
  exact ⟨w, hrun, hw, (executePersistedEngineLifecycle_exclusive hrun hkept).1⟩

theorem executePersistedEngineLifecycle_twoExecutors :
    ∃ w, run (four.step exampleEnvironment) (four.start preparedStore) recoverTwice = some w ∧
      four.Holds w digest 2 ∧ four.Holds w digest 3 := by
  have hend : (run (four.step exampleEnvironment) (four.start preparedStore) recoverTwice).map
      (fun w => (w.store.alive (ownerOf 2), (w.held 2).map (·.transactionId),
        w.store.alive (ownerOf 3), (w.held 3).map (·.transactionId))) =
      some (true, some digest, true, some digest) := by
    decide +kernel
  obtain ⟨w, hrun, hw⟩ := map_eq_some_iff.mp hend
  obtain ⟨hlive2, hrest⟩ := Prod.mk.inj hw
  obtain ⟨hheld2, hrest⟩ := Prod.mk.inj hrest
  obtain ⟨hlive3, hheld3⟩ := Prod.mk.inj hrest
  obtain ⟨lease2, hlease2, hid2⟩ := map_eq_some_iff.mp hheld2
  obtain ⟨lease3, hlease3, hid3⟩ := map_eq_some_iff.mp hheld3
  exact ⟨w, hrun, ⟨hlive2, lease2, hlease2, hid2⟩, hlive3, lease3, hlease3, hid3⟩

end NemoClaw.EngineLifecycle
