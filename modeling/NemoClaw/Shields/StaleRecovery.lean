import NemoClaw.Shields.Exclusion

/- The recovery of stale guards comes to an end.

The removal of a stale guard is itself guarded by a file with a longer name, which may be
stale as well. Each level of the recursion looks at a longer name than the one before, and a
guard that is made on the way is removed before its function returns. So the recursion goes
no deeper than the longest name that was there.

What is proved: `staleRecovery_ends`, that from any finite set of lock files a chain that
is alone leaves `tryCreate`, `staleRecoveryInProgress`, `enterStaleRecoveryGuard` and
`removeObservedStaleRecoveryGuard` after finitely many instructions, whatever it observes of
the owners and whichever of its instructions throw. The points of these functions are those
of `Shields.TransitionLock`.
-/
namespace NemoClaw.TransitionLock

open Runs LockFiles Option Function

variable {site : Site} {a : ChainId} {s s' : Shared}

/-- The chain, alone, comes to where `P` holds after finitely many instructions. -/
inductive Ends (site : Site) (a : ChainId) (P : Shared → Chain → Prop) :
    Shared → Chain → Prop where
  | here {s : Shared} {l : Chain} (h : P s l) : Ends site a P s l
  | step {s : Shared} {l : Chain} (moves : ∀ probe, (advance site a probe s l).isSome)
    (goes : ∀ probe next, advance site a probe s l = some next → Ends site a P next.1 next.2)
    (throws : ∀ l', abort l = some l' → Ends site a P s l') : Ends site a P s l

def Returned {r : Ret} (k : Stack r) (Q : Shared → r.Value → Prop) (s : Shared) (l : Chain) :
    Prop :=
  l = .idle ∨ ∃ v, l = resume k v ∧ Q s v

lemma Ends.bind {P Q : Shared → Chain → Prop} {l : Chain} (h : Ends site a P s l)
    (hnext : ∀ s' l', P s' l' → Ends site a Q s' l') : Ends site a Q s l := by
  induction h with
  | here h => exact hnext _ _ h
  | step moves _ _ ihgoes ihthrows => exact .step moves ihgoes ihthrows

/-- A chain that goes one way on, and to nothing where it throws. -/
lemma Ends.go {r : Ret} {k : Stack r} {Q : Shared → r.Value → Prop} {l : Chain}
    (habort : abort l = some .idle)
    (h : ∀ probe, ∃ next, advance site a probe s l = some next ∧
      Ends site a (Returned k Q) next.1 next.2) : Ends site a (Returned k Q) s l := by
  refine .step (fun probe => ?_) (fun probe next hnext => ?_) fun l' hl' => ?_
  · obtain ⟨next, hnext, -⟩ := h probe
    rw [hnext]; rfl
  · obtain ⟨next', hnext', hends⟩ := h probe
    obtain rfl := some.inj (hnext.symm.trans hnext')
    exact hends
  · obtain rfl := some.inj (habort.symm.trans hl')
    exact .here (.inl rfl)

lemma Ends.call {r r' : Ret} {k : Stack r} {k' : Stack r'} {Q : Shared → r.Value → Prop}
    {Q' : Shared → r'.Value → Prop} {l : Chain} (h : Ends site a (Returned k Q) s l)
    (hnext : ∀ s' v, Q s' v → Ends site a (Returned k' Q') s' (resume k v)) :
    Ends site a (Returned k' Q') s l := by
  refine h.bind fun s' l' hl' => ?_
  rcases hl' with rfl | ⟨v, rfl, hv⟩
  · exact .here (.inl rfl)
  · exact hnext s' v hv

/-- There is no file that was not there before. -/
def Within (s s' : Shared) : Prop := ∀ m, s'.files.linked m ≠ none → s.files.linked m ≠ none

def Created (level : ℕ) (s s' : Shared) : Option ℕ → Prop
  | none => Within s s'
  | some ino => s'.files.linked level = some ino ∧
    ∀ m, m ≠ level → s'.files.linked m ≠ none → s.files.linked m ≠ none

lemma Within.trans {s'' : Shared} (h : Within s s') (h' : Within s' s'') : Within s s'' :=
  fun m hm => h m (h' m hm)

lemma Created.within {level : ℕ} {s'' : Shared} {made : Option ℕ} (h : Within s s')
    (h' : Created level s' s'' made) : Created level s s'' made := by
  cases made with
  | none => exact h.trans h'
  | some ino => exact ⟨h'.1, fun m hm hlinked => h m (h'.2 m hm hlinked)⟩

/-- The chain, alone, returns, and no file is left that was not there in `s`. -/
abbrev Restores (site : Site) (a : ChainId) {r : Ret} (k : Stack r) (s s' : Shared) (l : Chain) :
    Prop := Ends site a (Returned k fun s'' _ => Within s s'') s' l

/-- Every file is at a lower level. -/
def Bounded (n : ℕ) (s : Shared) : Prop := ∀ m, n ≤ m → s.files.linked m = none

lemma Bounded.within {n : ℕ} (h : Bounded n s) (hwithin : Within s s') : Bounded n s' := by
  intro m hm
  by_contra hlinked
  exact hwithin m hlinked (h m hm)

lemma createLink_ends {level : ℕ} {owner : Owner} {k : Stack (.handle level)} :
    Ends site a (Returned k (Created level s)) s (.createLink level owner k) := by
  refine .go rfl fun probe => ?_
  simp only [advance]
  split
  · exact ⟨_, rfl, .here (.inr ⟨(none : Option ℕ), rfl, fun _ h => h⟩)⟩
  · refine ⟨_, rfl, .here (.inr ⟨some s.files.inodes.length, rfl, update_self ..,
      fun m hm hlinked => ?_⟩)⟩
    simpa only [Files.publish, update_of_ne hm] using hlinked

/-- A `staleRecoveryInProgress` that returns, and makes no file. -/
def ProgressEnds (site : Site) (a : ChainId) (level : ℕ) (s : Shared) : Prop :=
  ∀ k : Stack .bool, Restores site a k s s (.progressOpen level k)

lemma tryCreate_ends {level : ℕ} (h : ProgressEnds site a level s) (owner : Owner)
    (k : Stack (.handle level)) :
    Ends site a (Returned k (Created level s)) s (.createLstat level owner k) := by
  refine .go rfl fun probe => ?_
  simp only [advance]
  split
  · exact ⟨_, rfl, .here (.inr ⟨(none : Option ℕ), rfl, fun _ h => h⟩)⟩
  · refine ⟨_, rfl, (h _).call fun s' inProgress hwithin => ?_⟩
    cases inProgress with
    | true => exact .here (.inr ⟨(none : Option ℕ), rfl, hwithin⟩)
    | false =>
      refine Ends.bind createLink_ends fun s'' l' hl' => .here (hl'.imp_right ?_)
      rintro ⟨v, rfl, hv⟩
      exact ⟨v, rfl, hv.within hwithin⟩

lemma enterStaleRecoveryGuard_ends {level n : ℕ} (hbounded : Bounded n s)
    (h : ∀ s', Bounded n s' → ProgressEnds site a level s' ∧ ProgressEnds site a (level + 1) s')
    (probe : Probe) (k : Stack (.handle (level + 1))) :
    Ends site a (Returned k (Created (level + 1) s)) s
      (enterStaleRecoveryGuard site a probe level k) := by
  unfold enterStaleRecoveryGuard
  refine (tryCreate_ends (h s hbounded).2 _ _).call fun s1 made hmade => ?_
  cases made with
  | some ino => exact .here (.inr ⟨some ino, rfl, hmade⟩)
  | none =>
    refine ((h s1 (hbounded.within hmade)).1 _).call fun s2 inProgress hwithin => ?_
    have hwithin2 : Within s s2 := Within.trans hmade hwithin
    cases inProgress with
    | true => exact .here (.inr ⟨(none : Option ℕ), rfl, hwithin2⟩)
    | false =>
      refine (tryCreate_ends (h s2 (hbounded.within hwithin2)).2 _ _).bind
        fun s3 l' hl' => .here (hl'.imp_right ?_)
      rintro ⟨v, rfl, hv⟩
      exact ⟨v, rfl, hv.within hwithin2⟩

lemma removeHeld_ends {level held : ℕ} {k : Stack .unit} (h : s.files.linked level = some held) :
    Ends site a (Returned k fun s' _ => s'.files = s.files.unlink level) s
      (.removeHeld .rename level held k) := by
  refine .go rfl fun probe => ?_
  simp only [advance, RemoveHeldPoint.advance, h]
  refine ⟨_, rfl, .go rfl fun probe => ?_⟩
  simp only [advance, RemoveHeldPoint.advance, if_true]
  exact ⟨_, rfl, .here (.inr ⟨(() : Unit), rfl, rfl⟩)⟩

lemma Created.unlink {level x : ℕ} {made : ℕ} (hx : x ≠ level)
    (h : Created level s s' (some made)) :
    Created level s { s' with files := s'.files.unlink x } (some made) := by
  refine ⟨(update_of_ne hx.symm ..).trans h.1, fun m hm hlinked => h.2 m hm ?_⟩
  rintro hnone
  by_cases hmx : m = x <;> simp_all [Files.unlink]

lemma Created.relink {level x ino : ℕ} {made : ℕ} (hx : x ≠ level)
    (hlinked : s.files.linked x ≠ none) (h : Created level s s' (some made)) :
    Created level s { s' with files := s'.files.relink x ino } (some made) := by
  refine ⟨(update_of_ne hx.symm ..).trans h.1, fun m hm hm' => ?_⟩
  by_cases hmx : m = x
  · rwa [hmx]
  · exact h.2 m hm (by simpa only [Files.relink, update_of_ne hmx] using hm')

section Cleanup

variable {c : Cleanup} {k : Stack .bool}

/-- The guard that was made is given up, and what there was is there still. -/
lemma finish_ends (h : Created (c.level + 1) s s' (some c.guard)) (answer : Option Bool) :
    Restores site a k s s' (c.finish k answer) := by
  refine (removeHeld_ends h.1).call fun s'' _ hfiles => ?_
  have hwithin : Within s s'' := by
    intro m hm
    by_cases hml : m = c.level + 1 <;> simp_all [Files.unlink, Created]
  cases answer with
  | none => exact .here (.inl rfl)
  | some answer => exact .here (.inr ⟨answer, rfl, hwithin⟩)

lemma cleanup_go {point : CleanupPoint} (h : Created (c.level + 1) s s' (some c.guard))
    (hnext : Restores site a k s (point.advance site s' c k).1 (point.advance site s' c k).2) :
    Restores site a k s s' (.cleanup point c k) := by
  refine .step (fun _ => rfl) (fun probe next hgo => ?_) fun l' hl' => ?_
  · obtain rfl := some.inj hgo
    exact hnext
  · obtain rfl := some.inj hl'
    exact finish_ends h none

lemma cleanup_ends (h : Created (c.level + 1) s s' (some c.guard)) :
    Restores site a k s s' (.cleanup .assertHeld c k) := by
  have hlevel : c.level ≠ c.level + 1 := by omega
  have restore : ∀ ino s', s.files.linked c.level ≠ none →
      Created (c.level + 1) s s' (some c.guard) →
      Restores site a k s s' (.cleanup (.restore ino) c k) := by
    intro ino s' hlinked h
    refine cleanup_go h ?_
    simp only [CleanupPoint.advance]
    split
    · exact finish_ends (h.relink hlevel hlinked) _
    · exact finish_ends h _
  have moved : ∀ ino s', s.files.linked c.level ≠ none →
      Created (c.level + 1) s s' (some c.guard) →
      Restores site a k s s' (.cleanup (.moved ino) c k) := by
    intro ino s' hlinked h
    refine cleanup_go h ?_
    simp only [CleanupPoint.advance]
    split
    · split
      · exact finish_ends h _
      · exact restore ino s' hlinked h
    · exact restore ino s' hlinked h
  have rename : Restores site a k s s' (.cleanup .rename c k) := by
    refine cleanup_go h ?_
    simp only [CleanupPoint.advance]
    split
    · exact finish_ends h _
    · rename_i hino
      exact moved _ _ (h.2 _ hlevel (by rw [hino]; exact some_ne_none _)) (h.unlink hlevel)
  have assertHeldAgain :
      Restores site a k s s' (.cleanup .assertHeldAgain c k) := by
    refine cleanup_go h ?_
    simp only [CleanupPoint.advance, if_pos h.1]
    exact rename
  have readLstat : ∀ fd,
      Restores site a k s s' (.cleanup (.readLstat fd) c k) := by
    intro fd
    refine cleanup_go h ?_
    simp only [CleanupPoint.advance]
    split
    · split
      · split
        · exact assertHeldAgain
        · exact finish_ends h _
      · exact finish_ends h _
    · exact finish_ends h _
  refine cleanup_go h ?_
  simp only [CleanupPoint.advance, if_pos h.1]
  refine cleanup_go h ?_
  simp only [CleanupPoint.advance]
  split
  · exact finish_ends h _
  · exact readLstat _

end Cleanup

lemma removeObservedStaleRecoveryGuard_ends {level seen n : ℕ} (hbounded : Bounded n s)
    (h : ∀ s', Bounded n s' → ProgressEnds site a level s' ∧ ProgressEnds site a (level + 1) s')
    (probe : Probe) (k : Stack .bool) :
    Ends site a (Returned k fun s' _ => Within s s') s
      (enterStaleRecoveryGuard site a probe level (.cleanupEntered level seen k)) := by
  refine (enterStaleRecoveryGuard_ends hbounded h probe _).call fun s' made hmade => ?_
  cases made with
  | none => exact .here (.inr ⟨false, rfl, hmade⟩)
  | some guard => exact cleanup_ends hmade

/-- Above the highest file there is nothing to recover; below, the levels above have ended. -/
lemma progress_ends {n : ℕ} : ∀ level s, Bounded n s → ProgressEnds site a level s := by
  intro level
  induction hd : n - level using Nat.strong_induction_on generalizing level with
  | _ d ih =>
    subst hd
    intro s hbounded k
    refine .go rfl fun probe => ?_
    simp only [advance]
    split
    · exact ⟨_, rfl, .here (.inr ⟨false, rfl, fun _ h => h⟩)⟩
    · rename_i fd hfd
      have hlt : level + 1 < n := by
        by_contra hle
        exact absurd (hfd.symm.trans (hbounded _ (not_lt.mp hle))) (by simp)
      refine ⟨_, rfl, .go rfl fun probe => ?_⟩
      simp only [advance, if_pos hfd]
      refine ⟨_, rfl, .go rfl fun probe => ?_⟩
      simp only [advance]
      split
      · exact ⟨_, rfl, .here (.inr ⟨true, rfl, fun _ h => h⟩)⟩
      · split
        · refine ⟨_, rfl, (removeObservedStaleRecoveryGuard_ends hbounded
            (fun s' hs' => ⟨ih _ ?_ _ rfl s' hs', ih _ ?_ _ rfl s' hs'⟩) _ _).call
              fun s' removed hwithin => ?_⟩
          · omega
          · omega
          · cases removed with
            | false => exact .here (.inr ⟨true, rfl, hwithin⟩)
            | true =>
              refine .go rfl fun probe => ?_
              simp only [advance]
              exact ⟨_, rfl, .here (.inr ⟨_, rfl, hwithin⟩)⟩
        · exact ⟨_, rfl, .here (.inr ⟨true, rfl, fun _ h => h⟩)⟩

lemma bounded_of_finite (h : {level | s.files.linked level ≠ none}.Finite) :
    ∃ n, Bounded n s := by
  obtain ⟨n, hn⟩ := h.bddAbove
  refine ⟨n + 1, fun m hm => ?_⟩
  by_contra hlinked
  exact absurd (hn hlinked) (by omega)

/-- The chain, alone, comes to what waits for the value, or to nothing where it throws. -/
def Finishes (site : Site) (a : ChainId) {r : Ret} (k : Stack r) (s : Shared) (l : Chain) : Prop :=
  Ends site a (Returned k fun _ _ => True) s l

lemma Ends.finishes {r : Ret} {k : Stack r} {Q : Shared → r.Value → Prop} {l : Chain}
    (h : Ends site a (Returned k Q) s l) : Finishes site a k s l :=
  h.bind fun _ _ hl => .here (hl.imp_right fun ⟨v, hv, _⟩ => ⟨v, hv, trivial⟩)

/-- From finitely many files with anything in them the four functions return. -/
theorem staleRecovery_ends (site : Site) (a : ChainId) (s : Shared)
    (h : {level | s.files.linked level ≠ none}.Finite) (level : ℕ) :
    (∀ owner k, Finishes site a k s (.createLstat level owner k)) ∧
    (∀ k, Finishes site a k s (.progressOpen level k)) ∧
    (∀ probe k, Finishes site a k s (enterStaleRecoveryGuard site a probe level k)) ∧
    ∀ seen probe k, Finishes site a k s
      (enterStaleRecoveryGuard site a probe level (.cleanupEntered level seen k)) := by
  obtain ⟨n, hn⟩ := bounded_of_finite h
  have hprogress : ∀ s', Bounded n s' →
      ProgressEnds site a level s' ∧ ProgressEnds site a (level + 1) s' :=
    fun s' hs' => ⟨progress_ends level s' hs', progress_ends (level + 1) s' hs'⟩
  exact ⟨fun owner k => (tryCreate_ends (hprogress s hn).1 owner k).finishes,
    fun k => ((hprogress s hn).1 k).finishes,
    fun probe k => (enterStaleRecoveryGuard_ends hn hprogress probe k).finishes,
    fun _ probe k => (removeObservedStaleRecoveryGuard_ends hn hprogress probe k).finishes⟩

/-- From the two files left behind, process 1 comes to its `acquire` again. -/
theorem staleRecovery_ends_leftBehind :
    {level | leftBehind.shared.files.linked level ≠ none}.Finite ∧
      Finishes oneChainEach 1
        (.acquire (acquisitionState oneChainEach 1 "shields up" ⟨none, none, none, none⟩ ownerGone))
        leftBehind.shared
        (.createLstat 0
          (acquisitionState oneChainEach 1 "shields up" ⟨none, none, none, none⟩ ownerGone).owner
          (.acquire (acquisitionState oneChainEach 1 "shields up" ⟨none, none, none, none⟩
            ownerGone))) := by
  have hfinite : {level | leftBehind.shared.files.linked level ≠ none}.Finite := by
    refine (Set.finite_Iic 1).subset fun level hlevel => ?_
    by_contra hgt
    exact hlevel (if_neg hgt)
  exact ⟨hfinite, (staleRecovery_ends oneChainEach 1 leftBehind.shared hfinite 0).1 _ _⟩

end NemoClaw.TransitionLock
