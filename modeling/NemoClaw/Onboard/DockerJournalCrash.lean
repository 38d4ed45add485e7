import NemoClaw.Onboard.JournalCrash
import NemoClaw.Onboard.DockerJournal

/- What a crash leaves of a Docker managed-bootstrap journal.

What is proved:
  1. `load_runs` — from files in good order a load returns the journal, as the decision
     has it, and leaves the files in good order.
  2. `Op.settles` — every state that a store operation leads through is in good order
     and holds the journal before or after it, or a file is still linked at the
     temporary name that it was published under.
  3. `listUnfinishedIdentities_succeeds` — names that the store gives are names that a
     listing accepts.
  4. `docker_survives` — a crash along any run of operations and crashes.
-/
namespace NemoClaw.DockerJournal

open Js CallTree PrivateFiles JournalCrash List

lemma check_phase (j : Journal) (phase : Phase) :
    ({ j with phase } : Journal).check = j.check := rfl

lemma require_eq_ok {p : Prop} [Decidable p] {message : String} {u : Unit} :
    require p message = .ok u ↔ p := by
  unfold require invalid
  split <;> simp_all

variable {j : Journal} {d : Files Target Content}

lemma normalize_eq_ok {j' : Journal} :
    normalizeDockerManagedBootstrapJournal j = .ok j' ↔ j' = j ∧ j.check = .ok () := by
  unfold normalizeDockerManagedBootstrapJournal
  rw [bind_eq_ok]
  constructor
  · rintro ⟨u, hcheck, hj⟩; exact ⟨pure_eq_ok.mp hj, hcheck⟩
  · rintro ⟨hj, hcheck⟩; exact ⟨(), hcheck, pure_eq_ok.mpr hj⟩

lemma serialize_eq_ok {j' : Journal} :
    serializeDockerManagedBootstrapJournal j = .ok j' ↔
      j' = j ∧ j.check = .ok () ∧ byteLength j.text ≤ maxJournalBytes := by
  unfold serializeDockerManagedBootstrapJournal
  rw [bind_eq_ok]
  constructor
  · rintro ⟨n, hnorm, hrest⟩
    obtain ⟨rfl, hcheck⟩ := normalize_eq_ok.mp hnorm
    obtain ⟨u, hfits, hj⟩ := bind_eq_ok.mp hrest
    exact ⟨pure_eq_ok.mp hj, hcheck, require_eq_ok.mp hfits⟩
  · rintro ⟨rfl, hcheck, hfits⟩
    refine ⟨j', normalize_eq_ok.mpr ⟨rfl, hcheck⟩, bind_eq_ok.mpr ⟨(), ?_, rfl⟩⟩
    exact require_eq_ok.mpr hfits

structure Stored (id : String) (j : Journal) : Prop where
  check : j.check = .ok ()
  fits : byteLength j.text ≤ maxJournalBytes
  identity : j.bootstrapIdentity = id

lemma Stored.serialize {id : String} (h : Stored id j) :
    serializeDockerManagedBootstrapJournal j = .ok j :=
  serialize_eq_ok.mpr ⟨rfl, h.check, h.fits⟩

lemma isLowerHexOf_of_check (h : j.check = .ok ()) :
    isLowerHexOf 64 j.bootstrapIdentity := by
  obtain ⟨u, hid, -⟩ := bind_eq_ok.mp h; exact require_eq_ok.mp hid

/-- The decision fits the journal, which can be rewritten to agree with it. -/
structure Decides (id : String) (j : Journal) (phase : Phase) : Prop where
  decided : phase ∈ decisionPhases
  fitting : decisionMatchesJournal j.phase phase
  stored : Stored id { j with phase }

abbrev layout : Layout Target Content where
  journal id := ⟨id, .journal⟩
  decision id := ⟨id, .decision⟩
  isName x := isLowerHexOf 64 x.bootstrapIdentity
  stored id c := ∃ j, c = .journal j ∧ Stored id j
  decides id c c' := ∃ j phase, c = .journal j ∧ c' = .decision phase ∧ Decides id j phase
  journal_injective := fun _ _ h => congrArg Target.bootstrapIdentity h
  decision_injective := fun _ _ h => congrArg Target.bootstrapIdentity h
  apart := by simp

abbrev journalOf (id : String) : Target := layout.journal id

abbrev decisionOf (id : String) : Target := layout.decision id

/-- The journal of an identity, as its decision has it. -/
def value (F : Slots Target Content) (id : String) : Option Journal :=
  match F.lookup (journalOf id), F.lookup (decisionOf id) with
  | some ⟨.journal j, _⟩, some ⟨.decision phase, _⟩ =>
    if j.phase = .cutover then some { j with phase } else some j
  | some ⟨.journal j, _⟩, none => some j
  | _, _ => none

section Good

variable {F : Slots Target Content} {id : String}

lemma slot_cases (h : Good layout F) (id : String) :
    (F.lookup (journalOf id) = none ∧ F.lookup (decisionOf id) = none) ∨
      ∃ j, F.lookup (journalOf id) = some ⟨.journal j, []⟩ ∧ Stored id j ∧
        (F.lookup (decisionOf id) = none ∨
          ∃ phase, F.lookup (decisionOf id) = some ⟨.decision phase, []⟩ ∧ Decides id j phase) := by
  rcases h.slot id with hnone | ⟨c, hj, ⟨j, rfl, hstored⟩, hd⟩
  · exact .inl hnone
  refine .inr ⟨j, hj, hstored, ?_⟩
  rcases hd with hd | ⟨c', hd, j', phase, hsame, rfl, hdecides⟩
  · exact .inl hd
  · cases hsame; exact .inr ⟨phase, hd, hdecides⟩

lemma reads : Reads layout .journal value where
  congr := by
    intro F F' id hj hd
    unfold value
    rw [hj, hd]
  absent := by
    intro F id hj
    unfold value
    rw [hj]
  undecided := by
    intro F id j hj hd
    unfold value
    rw [hj, hd]

lemma value_of_decided {j : Journal} {phase : Phase}
    (hj : F.lookup (journalOf id) = some ⟨.journal j, []⟩)
    (hd : F.lookup (decisionOf id) = some ⟨.decision phase, []⟩) :
    value F id = if j.phase = .cutover then some { j with phase } else some j := by
  unfold value
  rw [hj, hd]

lemma decides_of_insert {j : Journal}
    (h : ∀ phase, F.lookup (decisionOf id) = some ⟨.decision phase, []⟩ → Decides id j phase)
    (hgood : Good layout F) :
    ∀ c', F.lookup (decisionOf id) = some ⟨c', []⟩ → layout.decides id (.journal j) c' := by
  intro c' hd
  obtain ⟨c1, c2, hf, -, j2, phase, -, rfl, -⟩ := hgood.decision id _ hd
  cases hf; exact ⟨j, phase, rfl, rfl, h phase hd⟩

lemma insert_journal (h : Good layout F) (hid : isLowerHexOf 64 id) {j : Journal}
    (hj : Stored id j) (hcutover : j.phase ≠ .cutover ∨ F.lookup (decisionOf id) = none)
    (hd : ∀ phase, F.lookup (decisionOf id) = some ⟨.decision phase, []⟩ → Decides id j phase) :
    Good layout (F.insert (journalOf id) ⟨.journal j, []⟩) ∧
      value (F.insert (journalOf id) ⟨.journal j, []⟩) =
        Function.update (value F) id (some j) := by
  have hgood := h.insert_journal hid ⟨j, rfl, hj⟩ (decides_of_insert hd h)
  refine ⟨hgood, reads.insert_journal ?_⟩
  rcases slot_cases hgood id with ⟨hnone, -⟩ | ⟨j', hj', -, hnone | ⟨phase, hphase, -⟩⟩
  · rw [AList.lookup_insert] at hnone; cases hnone
  · exact reads.undecided (AList.lookup_insert _) hnone
  · rw [value_of_decided (AList.lookup_insert _) hphase]
    refine if_neg (hcutover.resolve_right ?_)
    rw [← AList.lookup_insert_ne (layout.apart id id).symm, hphase]
    exact Option.some_ne_none _

lemma insert_decision (h : Good layout F) (hid : isLowerHexOf 64 id) {j : Journal}
    {phase : Phase} (hj : F.lookup (journalOf id) = some ⟨.journal j, []⟩)
    (hcutover : j.phase = .cutover) (hd : Decides id j phase) :
    Good layout (F.insert (decisionOf id) ⟨.decision phase, []⟩) ∧
      value (F.insert (decisionOf id) ⟨.decision phase, []⟩) =
        Function.update (value F) id (some { j with phase }) := by
  refine ⟨h.insert_decision hid hj ⟨j, phase, rfl, rfl, hd⟩, reads.insert_decision ?_⟩
  rw [value_of_decided ((AList.lookup_insert_ne (layout.apart id id)).trans hj)
    (AList.lookup_insert _), if_pos hcutover]

lemma insert_finalized (h : Good layout F) (hid : isLowerHexOf 64 id)
    (f : File Content) :
    Good layout (F.insert ⟨id, .finalized⟩ f) ∧
      value (F.insert ⟨id, .finalized⟩ f) = value F := by
  have hne : ∀ id', layout.journal id' ≠ ⟨id, .finalized⟩ ∧
      layout.decision id' ≠ ⟨id, .finalized⟩ := by simp
  refine ⟨h.insert_other (x := ⟨id, .finalized⟩) hid hne f, funext fun id' => ?_⟩
  exact reads.congr (AList.lookup_insert_ne (hne id').1) (AList.lookup_insert_ne (hne id').2)

end Good

/-- The files are in good order, and the journal file holds the journal. -/
abbrev Current := JournalCrash.Current layout Content.journal value

section Current

variable {F : Slots Target Content} {id : String} {j : Journal}

lemma Current.stored (h : Current id (some j) F) : Stored id j := by
  obtain ⟨c, hf, j', rfl, hstored⟩ := h.good.journal id _ (h.file j rfl)
  cases hf; exact hstored

lemma Current.decision_cases (h : Current id (some j) F) :
    F.lookup (decisionOf id) = none ∨
      j.phase ≠ .cutover ∧ ∃ phase, F.lookup (decisionOf id) = some ⟨.decision phase, []⟩ ∧
        Decides id j phase := by
  have hfile := h.file j rfl
  rcases slot_cases h.good id with ⟨hj, -⟩ | ⟨j', hj, -, hd | ⟨phase, hd, hdecides⟩⟩
  · rw [hfile] at hj; cases hj
  · exact .inl hd
  · obtain rfl : j = j' := by
      rw [hfile] at hj; simpa using hj
    refine .inr ⟨fun hphase => ?_, phase, hd, hdecides⟩
    have hvalue := h.value
    rw [value_of_decided hj hd, if_pos hphase] at hvalue
    have hsame : phase = j.phase := congrArg Journal.phase (Option.some.inj hvalue)
    have hdecided := hdecides.decided
    rw [hsame, hphase] at hdecided; exact absurd hdecided (by decide)

lemma Current.undecided (h : Current id (some j) F) (hphase : j.phase = .cutover) :
    F.lookup (decisionOf id) = none := by
  rcases h.decision_cases with hd | ⟨hne, -⟩
  · exact hd
  · exact absurd hphase hne

end Current

section Load

variable {d : Files Target Content} {id : String} {P : Slots Target Content → Prop}

section

variable (hid : isLowerHexOf 64 id)
include hid

lemma journalPath_eq : journalPath id = .done (.ok ()) := by
  unfold journalPath exactSha256
  rw [require_eq_ok.mpr hid]; rfl

lemma rewrite_runs {j : Journal} (hj : Stored id j)
    (hP : P d.files → P (d.files.insert (journalOf id) ⟨.journal j, []⟩)) :
    Runs layout.isName P
      (fun d' r => d'.files = d.files.insert (journalOf id) ⟨.journal j, []⟩ ∧ r = .ok ())
      (rewrite j) d := by
  have htarget : (⟨j.bootstrapIdentity, .journal⟩ : Target) = journalOf id := by rw [hj.identity]
  unfold rewrite
  rw [hj.serialize, htarget]; exact atomicWrite_replaces hid hP

/-- A decided cutover is rewritten, and every other journal returned as it is. -/
lemma applyDecision_runs {j : Journal} {phase : Phase} (hgood : Good layout d.files)
    (hj : d.files.lookup (journalOf id) = some ⟨.journal j, []⟩)
    (hd : d.files.lookup (decisionOf id) = some ⟨.decision phase, []⟩)
    (hdecides : Decides id j phase) (hP : ∀ F, Good layout F → value F = value d.files → P F) :
    Runs layout.isName P
      (fun d' r => ∃ j', r = .ok j' ∧ value d.files id = some j' ∧
        Current id (some j') d'.files ∧ value d'.files = value d.files) (applyDecision j (.decision phase)) d := by
  have hvalue := value_of_decided hj hd
  have hnorm : normalizeDockerManagedBootstrapJournal { j with phase } = .ok { j with phase } :=
    normalize_eq_ok.mpr ⟨rfl, hdecides.stored.check⟩
  rw [applyDecision, if_pos ⟨hdecides.decided, hdecides.fitting⟩, hnorm]
  split
  · next hcutover =>
    rw [if_pos hcutover] at hvalue
    -- the decision that is there fits the journal that agrees with it
    have hagain : Decides id { j with phase } phase :=
      ⟨hdecides.decided, by simp [decisionMatchesJournal], hdecides.stored⟩
    have hne : phase ≠ .cutover := by
      rintro rfl; exact absurd hdecides.decided (by decide)
    obtain ⟨hgood', hvalue'⟩ := insert_journal hgood hid hdecides.stored (.inl hne) (by
      intro phase' hphase'
      rw [hd] at hphase'
      obtain rfl : phase = phase' := by simpa using hphase'
      exact hagain)
    have hsame : value (d.files.insert (journalOf id) ⟨.journal { j with phase }, []⟩) =
        value d.files := by
      rw [hvalue', ← hvalue, Function.update_eq_self]
    refine (rewrite_runs hid hdecides.stored fun _ => hP _ hgood' hsame).bind
      (fun d' _ hd' => ?_) fun _ _ hd' => error_ne_ok hd'.2
    refine .done ⟨_, rfl, hvalue, ?_⟩
    rw [hd'.1, hsame]
    exact ⟨.of_file hgood' (by rw [hsame, hvalue]) (AList.lookup_insert _), rfl⟩
  · next hcutover =>
    rw [if_neg hcutover] at hvalue
    exact .done ⟨j, rfl, hvalue, .of_file hgood hvalue hj, rfl⟩

theorem load_runs (hgood : Good layout d.files)
    (hP : ∀ F, Good layout F → value F = value d.files → P F) :
    Runs layout.isName P
      (fun d' r => r = .ok (value d.files id) ∧ Current id (value d.files id) d'.files ∧
        value d'.files = value d.files)
      (load id) d := by
  unfold load
  rw [journalPath_eq hid]
  refine (readPrivateFile_runs hgood.journal_whole).bind (fun d1 contents hd1 => ?_)
    fun _ _ hd => error_ne_ok hd.2
  obtain ⟨rfl, hcontents⟩ := hd1
  cases hcontents
  rcases slot_cases hgood id with ⟨hj, hd⟩ | ⟨j, hj, hstored, hd⟩
  · have habsent := reads.absent hj
    rw [hj, habsent]; exact .done ⟨rfl, ⟨hgood, habsent, fun _ h => by cases h⟩, rfl⟩
  · rw [hj]
    show Runs layout.isName P _ ((Tree.lift (serializeDockerManagedBootstrapJournal j)).bind _) d1
    rw [hstored.serialize]
    show Runs layout.isName P _ (if j.bootstrapIdentity ≠ id then _ else _) d1
    rw [if_neg (not_not.mpr hstored.identity)]
    refine (readPrivateFile_runs hgood.decision_whole).bind (fun d2 decision hd2 => ?_)
      fun _ _ hd => error_ne_ok hd.2
    obtain ⟨rfl, hdecision⟩ := hd2
    cases hdecision
    rcases hd with hd | ⟨phase, hd, hdecides⟩
    · have hvalue := reads.undecided hj hd
      rw [hd, hvalue]; exact .done ⟨rfl, .of_file hgood hvalue hj, rfl⟩
    · rw [hd]
      refine (applyDecision_runs hid hgood hj hd hdecides hP).bind (fun d' j' hd' => ?_)
        fun d' e hd' => ?_
      · obtain ⟨j'', hj'', hvalue, hcurrent⟩ := hd'
        cases hj''
        rw [hvalue]; exact .done ⟨rfl, hcurrent⟩
      · obtain ⟨j'', hj'', -⟩ := hd'
        cases hj''

end

lemma loads : Loads layout .journal value load where
  runs := load_runs
  reads hid := by
    unfold load
    rw [journalPath_eq hid]; exact ⟨_, rfl⟩
  invalid hid := by
    unfold load journalPath exactSha256 require
    rw [if_neg hid]; exact ⟨_, rfl⟩

end Load

/-! ## Operations -/

inductive Op where
  | load (bootstrapIdentity : String)
  | create (journal : Journal)
  | transition (bootstrapIdentity : String) (expected next : Phase)
  | recordCompletion (bootstrapIdentity : String) (receipt : CompletionReceipt)
  | remove (bootstrapIdentity : String) (expected : List Phase)
  | loadFinalization (bootstrapIdentity : String) (context : Option FinalizationContext)
  | recordFinalization (record : FinalizationRecord) (context : Option FinalizationContext)

def Op.program : Op → StoreProgram Unit
  | load id => do let _ ← DockerJournal.load id
  | create j => DockerJournal.create j
  | transition id expected next => do let _ ← DockerJournal.transition id expected next
  | recordCompletion id receipt => do let _ ← DockerJournal.recordCompletion id receipt
  | remove id expected => DockerJournal.remove id expected
  | loadFinalization id context => do let _ ← DockerJournal.loadFinalization id context
  | recordFinalization record context => DockerJournal.recordFinalization record context

/-- A cutover that the operation is to end can be written as it then is. -/
def Op.Fits (d : Files Target Content) : Op → Prop
  | transition id .cutover next => ∀ j temporaries,
      d.files.lookup (journalOf id) = some ⟨.journal j, temporaries⟩ → j.phase = .cutover →
        byteLength ({ j with phase := next } : Journal).text ≤ maxJournalBytes
  | _ => True

section Settles

variable {d : Files Target Content} {id : String} {before : String → Option Journal}
  {α : Type}

variable {j : Journal} {f : Unit → StoreProgram α} {P : Slots Target Content → Prop}
  {context : Option FinalizationContext}

/-- The journal is rewritten in one call; what follows leaves it as it is. -/
lemma settles_rewrite (hid : isLowerHexOf 64 id) (hgood : Good layout d.files)
    (hvalue : value d.files = before) (hidentity : j.bootstrapIdentity = id)
    (hcutover : j.phase ≠ .cutover ∨ d.files.lookup (decisionOf id) = none)
    (hd : ∀ phase, d.files.lookup (decisionOf id) = some ⟨.decision phase, []⟩ → Stored id j →
      Decides id j phase)
    (hf : ∀ d', Good layout d'.files → value d'.files = Function.update before id (some j) →
      Runs layout.isName (Settled layout value before (Function.update before id (some j)))
      (fun d' _ => Good layout d'.files ∧ value d'.files = Function.update before id (some j))
      (f ()) d') :
    Settles layout value before ((rewrite j).bind f) d := by
  cases hserialize : serializeDockerManagedBootstrapJournal j with
  | error e =>
    unfold rewrite
    rw [hserialize]; exact .done hgood hvalue
  | ok j' =>
    obtain ⟨-, hcheck, hfits⟩ := serialize_eq_ok.mp hserialize
    have hstored : Stored id j := ⟨hcheck, hfits, hidentity⟩
    obtain ⟨hgood', hvalue'⟩ := insert_journal hgood hid hstored hcutover
      fun phase hphase => hd phase hphase hstored
    rw [hvalue] at hvalue'
    refine ⟨Function.update before id (some j), ?_⟩
    refine (rewrite_runs hid hstored fun _ => .inr ⟨hgood', .inr hvalue'⟩).bind
      (fun d' _ hd' => hf d' ?_ ?_) fun _ _ hd' => nomatch hd'.2
    · rw [hd'.1]; exact hgood'
    · rw [hd'.1]; exact hvalue'

lemma create_settles (hgood : Good layout d.files) :
    Settles layout value (value d.files) (create j) d := by
  refine Settles.lift hgood rfl fun j' hj' => ?_
  obtain ⟨rfl, hcheck⟩ := normalize_eq_ok.mp hj'
  have hid := isLowerHexOf_of_check hcheck
  split
  · exact .done hgood rfl
  refine Settles.bind (readPrivateFile_runs hgood.decision_whole) hgood rfl
    fun d1 decision hd1 _ _ => ?_
  obtain ⟨rfl, hdecision⟩ := hd1
  cases hdecision
  cases hd : d1.files.lookup (decisionOf j'.bootstrapIdentity) with
  | some f => exact .done hgood rfl
  | none =>
  refine Settles.lift hgood rfl fun j hserialize => ?_
  obtain ⟨rfl, -, hfits⟩ := serialize_eq_ok.mp hserialize
  have hstored : Stored j.bootstrapIdentity j := ⟨hcheck, hfits, rfl⟩
  exact Reads.publish hgood hid (insert_journal hgood hid hstored (.inr hd)
    fun phase hphase => nomatch hd.symm.trans hphase)

lemma fitting_advance {phase next decision : Phase} (hallowed : (phase, next) ∈ allowedTransitions)
    (hphase : phase ≠ .cutover) (hdecided : decision ∈ decisionPhases)
    (hfits : decisionMatchesJournal phase decision) :
    next ≠ .cutover ∧ decisionMatchesJournal next decision := by
  cases phase <;> cases next <;> cases decision <;> simp_all +decide

section

variable (hid : isLowerHexOf 64 id)
include hid

lemma advance_settles {next : Phase} (hcurrent : Current id (some j) d.files)
    (hvalue : value d.files = before) (hallowed : (j.phase, next) ∈ allowedTransitions)
    (hphase : j.phase ≠ .cutover) (hf : ∃ r, f () = .done r) :
    Settles layout value before ((rewrite { j with phase := next }).bind f) d := by
  have hdecision : ∀ phase, d.files.lookup (decisionOf id) = some ⟨.decision phase, []⟩ →
      Decides id j phase := by
    intro phase hd
    rcases hcurrent.decision_cases with hnone | ⟨-, phase', hd', hdecides⟩
    · rw [hnone] at hd; cases hd
    · rw [hd'] at hd
      cases hd; exact hdecides
  refine settles_rewrite hid hcurrent.good hvalue hcurrent.stored.identity ?_ ?_ ?_
  · rcases hcurrent.decision_cases with hnone | ⟨-, phase, hd, hdecides⟩
    · exact .inr hnone
    · exact .inl (fitting_advance hallowed hphase hdecides.decided hdecides.fitting).1
  · intro phase hd _
    have hdecides := hdecision phase hd
    have hfitting := fitting_advance hallowed hphase hdecides.decided hdecides.fitting
    exact ⟨hdecides.decided, hfitting.2, hdecides.stored⟩
  · intro d' hgood' hvalue'
    obtain ⟨r, hr⟩ := hf
    rw [hr]; exact .done ⟨hgood', hvalue'⟩

lemma publishDecision_runs {next : Phase} (hfree : d.files.lookup (decisionOf id) = none)
    (hlink : ∀ n, P (d.files.insert (decisionOf id) ⟨.decision next, [n]⟩))
    (hunlink : P (d.files.insert (decisionOf id) ⟨.decision next, []⟩)) :
    Runs layout.isName P
      (fun d' r => d'.files = d.files.insert (decisionOf id) ⟨.decision next, []⟩ ∧ r = .ok ())
      (publishDecision id next) d := by
  have hname : layout.isName (decisionOf id) := hid
  have hpublish := atomicWrite_publishes hname hfree (fun n _ => hlink n) fun _ _ => hunlink
  exact Safe.handle (fun _ => rfl) hpublish (fun _ _ hd => hd) fun _ _ hd => nomatch hd.2

lemma decide_settles {next : Phase} (hcurrent : Current id (some j) d.files)
    (hvalue : value d.files = before) (hallowed : (j.phase, next) ∈ allowedTransitions)
    (hphase : j.phase = .cutover)
    (hfits : byteLength ({ j with phase := next } : Journal).text ≤ maxJournalBytes)
    (hf : ∃ r, f () = .done r) :
    Settles layout value before
      ((publishDecision id next).bind fun _ => (rewrite { j with phase := next }).bind f) d := by
  have hdecided : next ∈ decisionPhases := by
    rw [hphase] at hallowed
    cases next <;> simp_all +decide
  have hne : next ≠ .cutover := by
    rintro rfl; exact absurd hdecided (by decide)
  have hstored : Stored id { j with phase := next } :=
    ⟨(check_phase j next).trans hcurrent.stored.check, hfits, hcurrent.stored.identity⟩
  have hdecides : Decides id j next := ⟨hdecided, by simp [decisionMatchesJournal, hphase], hstored⟩
  obtain ⟨hgood1, hvalue1⟩ :=
    insert_decision hcurrent.good hid (hcurrent.file j rfl) hphase hdecides
  obtain ⟨hgood2, hvalue2⟩ := insert_journal hgood1 hid hstored (.inl hne) (by
    intro phase hd
    rw [AList.lookup_insert] at hd
    cases hd
    exact ⟨hdecided, by simp [decisionMatchesJournal], hstored⟩)
  rw [hvalue] at hvalue1
  rw [hvalue1, Function.update_idem] at hvalue2
  refine ⟨Function.update before id (some { j with phase := next }), ?_⟩
  refine (publishDecision_runs hid (hcurrent.undecided hphase) (fun _ => .inl Torn.insert_decision)
    (.inr ⟨hgood1, .inr hvalue1⟩)).bind (fun d1 _ hd1 => ?_) fun _ _ hd => nomatch hd.2
  obtain ⟨hd1, -⟩ := hd1
  rw [← hd1] at hgood2 hvalue2
  refine (rewrite_runs hid hstored fun _ => .inr ⟨hgood2, .inr hvalue2⟩).bind
    (fun d2 _ hd2 => ?_) fun _ _ hd => nomatch hd.2
  obtain ⟨r, hr⟩ := hf
  rw [hr]
  refine .done ?_
  rw [hd2.1]; exact ⟨hgood2, hvalue2⟩

end

lemma file_of_cutover {F : Slots Target Content} (hgood : Good layout F)
    (hvalue : value F id = some j) (hphase : j.phase = .cutover) :
    F.lookup (journalOf id) = some ⟨.journal j, []⟩ := by
  rcases slot_cases hgood id with ⟨hnone, -⟩ | ⟨j', hj, -, hd | ⟨phase, hd, hdecides⟩⟩
  · rw [reads.absent hnone] at hvalue; cases hvalue
  · rw [reads.undecided hj hd] at hvalue
    cases hvalue; exact hj
  · rw [value_of_decided hj hd] at hvalue
    split at hvalue
    · cases hvalue
      have hdecided := hdecides.decided
      rw [show phase = .cutover from hphase] at hdecided; exact absurd hdecided (by decide)
    · next hcutover =>
      cases hvalue; exact absurd hphase hcutover

lemma transition_settles {expected next : Phase} (hgood : Good layout d.files)
    (hfits : (Op.transition id expected next).Fits d) :
    Settles layout value (value d.files) (transition id expected next) d := by
  unfold transition
  split
  · exact .done hgood rfl
  next hallowed =>
  refine loads.found hgood ⟨_, rfl⟩ fun j d' hv hid hcurrent hvalue => ?_
  show Settles layout value _ (if j.phase = next then _ else if j.phase ≠ expected then _ else _) d'
  split
  · exact .done hcurrent.good hvalue
  split
  · exact .done hcurrent.good hvalue
  next hexpected =>
  obtain rfl := not_not.mp hexpected
  rw [normalize_eq_ok.mpr ⟨rfl, (check_phase j next).trans (Current.stored hcurrent).check⟩]
  split
  · next hphase =>
    rw [hphase] at hfits
    have hfile := file_of_cutover hgood hv hphase
    exact decide_settles hid hcurrent hvalue (not_not.mp hallowed) hphase
      (hfits j [] hfile hphase) ⟨_, rfl⟩
  · next hphase =>
    exact advance_settles hid hcurrent hvalue (not_not.mp hallowed) hphase ⟨_, rfl⟩

/-- After the rewriting a load and a comparison leave everything as it is. -/
lemma recordCompletion_settles {receipt : CompletionReceipt} (hgood : Good layout d.files) :
    Settles layout value (value d.files) (recordCompletion id receipt) d := by
  refine loads.found hgood ⟨_, rfl⟩ fun j d' _ hid hcurrent hvalue => ?_
  show Settles layout value _ (if j.phase ≠ .cutover then _ else _) d'
  split
  · exact .done hcurrent.good hvalue
  next hphase =>
  refine Settles.lift hcurrent.good hvalue fun updated hupdated => ?_
  obtain ⟨rfl, -⟩ := normalize_eq_ok.mp hupdated
  have hnone := Current.undecided hcurrent (not_not.mp hphase)
  split
  · refine Settles.lift hcurrent.good hvalue fun same _ => ?_
    cases same <;> exact .done hcurrent.good hvalue
  · refine settles_rewrite hid hcurrent.good hvalue (Current.stored hcurrent).identity (.inr hnone)
      (fun phase hd _ => nomatch hnone.symm.trans hd) fun d1 hgood1 hvalue1 => ?_
    refine loads.reload hid hgood1 hvalue1 fun persisted d2 hend => ?_
    cases persisted with
    | none => exact .done hend
    | some j2 =>
    refine Runs.lift (fun same _ => ?_) fun _ _ => hend
    cases same <;> exact .done hend

lemma remove_settles {expected : List Phase} (hgood : Good layout d.files) :
    Settles layout value (value d.files) (remove id expected) d := by
  refine loads.found hgood ⟨_, rfl⟩ fun j d' _ hid hcurrent hvalue => ?_
  show Settles layout value _ (if j.phase ∉ expected then _ else _) d'
  split
  · exact .done hcurrent.good hvalue
  · exact reads.remove hcurrent hvalue hid hid rfl fun _ => rfl

/-! A finalization record is read and published beside the journals. -/

lemma loadFinalization_same :
    Runs layout.isName P (fun d' _ => d' = d) (loadFinalization id context) d := by
  refine Runs.lift (fun _ _ => ?_) fun _ _ => rfl
  refine readPrivateFile_same.bind (fun d1 contents hd1 => ?_) fun _ _ hd => hd
  obtain rfl := hd1
  cases contents with
  | none => exact .done rfl
  | some contents =>
  refine Runs.lift (fun record _ => ?_) fun _ _ => rfl
  split <;> exact .done rfl

lemma expectFinalization_same {serialized : FinalizationRecord} {otherwise : Failure} :
    Runs layout.isName P (fun d' _ => d' = d) (expectFinalization serialized context otherwise) d := by
  refine loadFinalization_same.bind (fun d1 record hd1 => ?_) fun _ _ hd => hd
  obtain rfl := hd1
  split <;> exact .done rfl

lemma identity_of_check {r : FinalizationRecord} (h : r.check = .ok ()) :
    isLowerHexOf 64 r.bootstrapIdentity := by
  obtain ⟨_, -, h⟩ := bind_eq_ok.mp h
  obtain ⟨_, -, h⟩ := bind_eq_ok.mp h
  obtain ⟨_, -, h⟩ := bind_eq_ok.mp h
  obtain ⟨_, hid, -⟩ := bind_eq_ok.mp h; exact require_eq_ok.mp hid

lemma publishFinalization_runs {r : FinalizationRecord}
    (hid : isLowerHexOf 64 r.bootstrapIdentity)
    (hP : ∀ f, P (d.files.insert ⟨r.bootstrapIdentity, .finalized⟩ f)) (hd : P d.files) :
    Runs layout.isName P (fun d' _ => P d'.files)
      (atomicWrite ⟨r.bootstrapIdentity, .finalized⟩ (.finalization r) true) d := by
  have hname : layout.isName ⟨r.bootstrapIdentity, .finalized⟩ := hid
  cases hfile : d.files.lookup ⟨r.bootstrapIdentity, .finalized⟩ with
  | none =>
    refine (atomicWrite_publishes hname hfile (fun n _ => hP _) fun n _ => hP _).mono
      fun d' _ hd' => ?_
    rw [hd'.1]; exact hP _
  | some f =>
    refine (atomicWrite_exists hname hfile).mono fun d' _ hd' => ?_
    rw [hd'.1]; exact hd

lemma recordFinalization_settles {record : FinalizationRecord} (hgood : Good layout d.files) :
    Settles layout value (value d.files) (recordFinalization record context) d := by
  refine Settles.lift hgood rfl fun _ hcheck => ?_
  have hid := identity_of_check hcheck
  refine Settles.lift hgood rfl fun _ _ => Settles.lift hgood rfl fun serialized hserialized => ?_
  refine Settles.bind loadFinalization_same hgood rfl fun d1 existing hd1 _ _ => ?_
  obtain rfl := hd1
  cases existing with
  | some existing =>
    show Settles layout value _ (if existing ≠ serialized then _ else _) d1
    split <;> exact .done hgood rfl
  | none =>
    have hsame : serialized = record := by
      obtain ⟨_, -, hrest⟩ := bind_eq_ok.mp hserialized
      obtain ⟨_, -, hrest⟩ := bind_eq_ok.mp hrest; exact pure_eq_ok.mp hrest
    subst hsame
    have hpublish := @publishFinalization_runs d1
      (fun F => Good layout F ∧ value F = value d1.files) serialized hid
      (fun f => insert_finalized hgood hid f) ⟨hgood, rfl⟩
    have hexpect : ∀ d2 otherwise, Good layout d2.files ∧ value d2.files = value d1.files →
        Runs layout.isName (fun F => Good layout F ∧ value F = value d1.files)
          (fun d' _ => Good layout d'.files ∧ value d'.files = value d1.files)
          (expectFinalization serialized context otherwise) d2 := by
      intro d2 otherwise hd2
      refine expectFinalization_same.mono fun d3 _ hd3 => ?_
      rw [hd3]; exact hd2
    have hcaught := Safe.handle (fun _ => rfl) hpublish (fun _ _ hd => hd) hexpect
    exact Settles.quiet (Runs.bind hcaught (fun d2 _ => hexpect d2 _) fun _ _ hd => hd) hgood rfl

end Settles

/-- Every operation settles, if a cutover that it is to end can be written as it then is. -/
theorem Op.settles (op : Op) (hgood : Good layout d.files) (hfits : op.Fits d) :
    Settles layout value (value d.files) op.program d := by
  cases op with
  | load id => exact loads.settles hgood rfl fun _ _ hcurrent hvalue => .done hcurrent.good hvalue
  | create j => exact create_settles hgood
  | transition id expected next => exact (transition_settles hgood hfits).void
  | recordCompletion id receipt => exact (recordCompletion_settles hgood).void
  | remove id expected => exact remove_settles hgood
  | loadFinalization id context =>
    exact Settles.bind loadFinalization_same hgood rfl fun _ _ _ hgood' hvalue => .done hgood' hvalue
  | recordFinalization record context => exact recordFinalization_settles hgood

lemma dot_notMem_pieces {x : Target} (h : layout.isName x) : ∀ piece ∈ x.pieces, '.' ∉ piece := by
  have hid : '.' ∉ x.bootstrapIdentity.toList := by
    have hhex : isLowerHexOf 64 x.bootstrapIdentity := h
    exact dot_notMem (by decide) (Bool.and_eq_true _ _ ▸ hhex).2
  intro piece hpiece
  rcases mem_append.mp hpiece with hpiece | hpiece
  · rcases mem_cons.mp hpiece with rfl | hpiece
    · exact hid
    · obtain rfl := mem_singleton.mp hpiece; decide
  · revert hpiece
    cases x.kind with
    | journal => exact nofun
    | decision =>
      intro hpiece
      obtain rfl := mem_singleton.mp hpiece; decide
    | finalized =>
      intro hpiece
      obtain rfl := mem_singleton.mp hpiece; decide

lemma dot_notMem_stamp (stamp : Stamp) :
    ∀ piece ∈ [stamp.pid, stamp.time, "tmp".toList], '.' ∉ piece := by
  intro piece hpiece
  simp only [mem_cons, not_mem_nil, or_false] at hpiece
  rcases hpiece with rfl | rfl | rfl
  · exact dot_notMem (by decide) stamp.pid_digits.2
  · exact dot_notMem (by decide) stamp.time_hex.2
  · decide

/-- Every name that the store gives is one of the three patterns. -/
lemma name_listed (stamps : ℕ → Stamp) {e : Entry Target} (h : layout.isName (target e)) :
    (journalName (entryName stamps e)).isSome ∨ isOtherName (entryName stamps e) := by
  have hpieces := dot_notMem_pieces h
  have hid : isSha256 (target e).bootstrapIdentity.toList := h
  cases e with
  | file x =>
    obtain ⟨id, kind⟩ := x
    have hsplit : (entryName stamps (.file ⟨id, kind⟩)).splitOn '.' = Target.pieces ⟨id, kind⟩ :=
      splitOn_intercalate '.' hpieces (by simp [Target.pieces])
    unfold journalName isOtherName
    rw [hsplit]
    cases kind with
    | journal =>
      left
      simpa [Target.pieces, Kind.suffix, target] using hid
    | decision =>
      right
      simpa [Target.pieces, Kind.suffix, target] using hid
    | finalized =>
      right
      simpa [Target.pieces, Kind.suffix, target] using hid
  | temporary x n =>
    obtain ⟨id, kind⟩ := x
    have hstamp := dot_notMem_stamp (stamps n)
    have hsplit : (entryName stamps (.temporary ⟨id, kind⟩ n)).splitOn '.' =
        [[]] ++ Target.pieces ⟨id, kind⟩ ++
          [(stamps n).pid, (stamps n).time, "tmp".toList] := by
      refine splitOn_intercalate '.' ?_ (by simp)
      intro piece hpiece
      rcases mem_append.mp hpiece with hpiece | hpiece
      · rcases mem_append.mp hpiece with hpiece | hpiece
        · rw [mem_singleton.mp hpiece]; exact not_mem_nil
        · exact hpieces piece hpiece
      · exact hstamp piece hpiece
    right
    unfold isOtherName
    rw [hsplit]
    have hpid := (stamps n).pid_digits
    have htime := (stamps n).time_hex
    cases kind with
    | journal => simp_all [Target.pieces, Kind.suffix, target]
    | decision => simp_all [Target.pieces, Kind.suffix, target]
    | finalized => simp_all [Target.pieces, Kind.suffix, target]

lemma unfinishedIdentities_ok {names : List (List Char)}
    (h : ∀ name ∈ names, (journalName name).isSome ∨ isOtherName name) :
    ∃ identities, unfinishedIdentities names = .ok identities := by
  induction names with
  | nil => exact ⟨[], rfl⟩
  | cons name names ih =>
    obtain ⟨identities, hrest⟩ := ih fun name' hname' => h name' (mem_cons_of_mem _ hname')
    unfold unfinishedIdentities
    rw [hrest]
    cases hjournal : journalName name with
    | some identity => exact ⟨_, rfl⟩
    | none =>
      have hother := (h name mem_cons_self).resolve_left (by simp [hjournal])
      exact ⟨identities, if_pos hother⟩

theorem listUnfinishedIdentities_succeeds (stamps : ℕ → Stamp) (h : Sound layout d) :
    ∃ listed, ((listUnfinishedIdentities stamps).finish Files.exec d).2 = .ok listed := by
  have hnames : ∀ name ∈ d.entries.map (entryName stamps),
      (journalName name).isSome ∨ isOtherName name := by
    intro name hname
    obtain ⟨e, he, rfl⟩ := mem_map.mp hname
    exact name_listed stamps (h.entries e he)
  obtain ⟨identities, hidentities⟩ := unfinishedIdentities_ok hnames
  refine ⟨identities.insertionSort (· ≤ ·), ?_⟩
  have hcall : (listUnfinishedIdentities stamps).finish Files.exec d =
      ((Tree.lift (unfinishedIdentities (d.entries.map (entryName stamps)))).bind
        fun identities => Tree.done (.ok (identities.insertionSort (· ≤ ·)))).finish
          Files.exec d := rfl
  rw [hcall, hidentities]; rfl

theorem docker_survives (stamps : ℕ → Stamp) {id : String} (hid : isLowerHexOf 64 id)
    {acts : List (Act Op)}
    (hacts : Runs.Along (step Op.program) (Whole layout Op.program Op.Fits) Files.empty acts)
    (hrun : Runs.run (step Op.program) Files.empty acts = some d) {op : Op} {calls : ℕ}
    (hcrash : Whole layout Op.program Op.Fits d (.crash op calls)) :
    Survives (load id) (listUnfinishedIdentities stamps) op.program calls d :=
  survives_of_run (fun v => v id) (fun _ op hgood hfits => op.settles hgood hfits)
    (fun _ hd => loads.finish hid hd.good) (fun _ hd => listUnfinishedIdentities_succeeds stamps hd)
    hacts hrun hcrash

/-- A journal that `create` takes. -/
structure Creatable (j : Journal) : Prop where
  stored : Stored j.bootstrapIdentity j
  staged : j.phase = .staged
  prepared : j.preparationReceipt ≠ none
  uncommitted : j.commitReceipt = none

lemma create_eq (h : Creatable j) :
    create j = (readPrivateFile (decisionOf j.bootstrapIdentity) "decision").bind fun decision =>
      match decision with
      | some _ => failStore "stale decision exists for this bootstrap identity"
      | none => atomicWrite (journalOf j.bootstrapIdentity) (.journal j) true := by
  have hcond : ¬(j.phase ≠ .staged ∨ j.preparationReceipt = none ∨ j.commitReceipt ≠ none) := by
    rintro (hphase | hprepared | hcommitted)
    · exact hphase h.staged
    · exact h.prepared hprepared
    · exact hcommitted h.uncommitted
  unfold create
  rw [normalize_eq_ok.mpr ⟨rfl, h.stored.check⟩]
  show (if j.phase ≠ .staged ∨ j.preparationReceipt = none ∨ j.commitReceipt ≠ none then _
    else _) = _
  rw [if_neg hcond]
  refine congrArg (Tree.bind _) (funext fun decision => ?_)
  cases decision with
  | some _ => rfl
  | none => rw [h.stored.serialize]; rfl

lemma create_crashed (h : Creatable j) :
    (crashed (create j) 3 Files.empty).files = ∅ ∧
      (crashed (create j) 3 (crashed (create j) 3 Files.empty)).files = ∅ ∧
      (crashed (create j) 4 Files.empty).files =
        (∅ : Slots Target Content).insert (journalOf j.bootstrapIdentity) ⟨.journal j, [0]⟩ := by
  rw [create_eq h]; exact ⟨rfl, rfl, rfl⟩

lemma create_linkCrash (h : Creatable j) :
    ((load j.bootstrapIdentity).finish Files.exec (crashed (create j) 4 Files.empty)).2 =
      .error (.invalid "journal file ownership boundary is invalid") := by
  have hfile : (crashed (create j) 4 Files.empty).files.lookup (journalOf j.bootstrapIdentity) =
      some ⟨.journal j, [0]⟩ := by
    rw [(create_crashed h).2.2]; exact AList.lookup_insert _
  exact loads.linked (isLowerHexOf_of_check h.stored.check) hfile

end NemoClaw.DockerJournal
