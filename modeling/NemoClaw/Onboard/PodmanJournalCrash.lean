import NemoClaw.Onboard.JournalCrash
import NemoClaw.Onboard.PodmanJournal

/- What a crash leaves of a Podman managed-bootstrap journal.

What is proved:
  1. `fits_of_check` — a journal that passes its checks is never too long to be written.
  2. `load_runs` — from files in good order a load returns the journal, as the decision
     has it, and leaves the files in good order.
  3. `Op.settles` — every state that a store operation leads through is in good order
     and holds the journal before or after it, or a file is still linked at the
     temporary name that it was published under.
  4. `podman_survives` — a crash along any run of operations and crashes.
-/
namespace NemoClaw.PodmanJournal

open Js CallTree PrivateFiles JournalCrash List

/-! ## Records that are written -/

lemma require_eq_ok {p : Prop} [Decidable p] {message : String} {u : Unit} :
    require p message = .ok u ↔ p := by
  unfold require invalid
  split <;> simp_all

lemma then_eq_ok {x y : Check} {u : Unit} : (do x; y) = .ok u ↔ x = .ok () ∧ y = .ok () := by
  rw [bind_eq_ok]
  constructor
  · rintro ⟨_, hx, hy⟩; exact ⟨hx, hy⟩
  · rintro ⟨hx, hy⟩; exact ⟨(), hx, hy⟩

/-- The text takes at most the given bytes and has no control characters. -/
structure Bounded (s : String) (bytes : ℕ) : Prop where
  bytes : byteLength s ≤ bytes
  plain : ∀ c ∈ s.toList, 32 ≤ c.toNat

lemma Bounded.quote {s : String} {bytes : ℕ} (h : Bounded s bytes) :
    byteLength (quote s) ≤ 2 * bytes + 2 := by
  have hquote := byteLength_quote h.plain
  have hbytes := h.bytes; omega

variable {label : String} {j : Journal} {d : Files Target Content} (stamps : ℕ → Stamp)

lemma exactString_eq_ok {value : String} {bytes : ℕ} (h : exactString value label bytes = .ok ()) :
    Bounded value bytes := by
  obtain ⟨-, -, hcontrol, hbytes⟩ := require_eq_ok.mp h
  refine ⟨hbytes, fun c hc => ?_⟩
  have hplain := any_eq_false.mp hcontrol c hc
  unfold isControl at hplain
  simp only [Bool.or_eq_true, decide_eq_true_eq, Bool.and_eq_true, not_or] at hplain; omega

lemma size_of_lowerHex {c : Char} (h : isLowerHex c) : c.utf8Size = 1 ∧ 32 ≤ c.toNat := by
  have hrange : 48 ≤ c.toNat ∧ c.toNat ≤ 102 := by
    simp only [isLowerHex, isDigit, Bool.or_eq_true, Bool.and_eq_true, decide_eq_true_eq,
      Char.le_def, UInt32.le_iff_toNat_le] at h
    have hc : c.toNat = c.val.toNat := rfl
    simp only [show ('0' : Char).val.toNat = 48 from rfl, show ('9' : Char).val.toNat = 57 from rfl,
      show ('a' : Char).val.toNat = 97 from rfl, show ('f' : Char).val.toNat = 102 from rfl] at h
    omega
  refine ⟨?_, by omega⟩
  refine if_pos ?_
  rw [UInt32.le_iff_toNat_le]; exact le_trans hrange.2 (by decide)

lemma utf8Len_of_lowerHex {cs : List Char} (h : cs.all isLowerHex) :
    String.utf8Len cs = cs.length := by
  induction cs with
  | nil => rfl
  | cons c cs ih =>
    rw [all_cons, Bool.and_eq_true] at h
    rw [String.utf8Len_cons, ih h.2, (size_of_lowerHex h.1).1, length_cons]

lemma bounded_of_hex {s : String} {n : ℕ} (h : isLowerHexOf n s) : Bounded s n := by
  unfold isLowerHexOf at h
  rw [Bool.and_eq_true, beq_iff_eq] at h
  refine ⟨?_, fun c hc => (size_of_lowerHex (all_eq_true.mp h.2 c hc)).2⟩
  have hlen := utf8Len_of_lowerHex h.2
  rw [← String.utf8ByteSize_ofList, String.ofList_toList, h.1] at hlen; exact le_of_eq hlen

lemma bounded_of_sha256 {value : String} (h : exactSha256 value label = .ok ()) :
    Bounded value 64 := bounded_of_hex (require_eq_ok.mp h)

lemma bounded_of_image {value : String} (h : exactImageContentId value label = .ok ()) :
    Bounded value 71 := by
  have hdigest := require_eq_ok.mp h
  unfold isDigestAfter at hdigest
  rw [Bool.and_eq_true, beq_iff_eq] at hdigest
  obtain ⟨hstart, hhex⟩ := hdigest
  have hrest := bounded_of_hex hhex
  generalize hdigits : String.ofList (value.toList.drop "sha256:".toList.length) = digits at hrest
  have hsplit : value.toList = "sha256:".toList ++ digits.toList := by
    have hrest : digits.toList = value.toList.drop "sha256:".toList.length := by
      rw [← hdigits]; exact String.toList_ofList
    rw [hrest]
    conv_lhs => rw [← take_append_drop "sha256:".toList.length value.toList, hstart]
  constructor
  · have hvalue : value = "sha256:" ++ digits := by
      rw [← String.toList_inj, String.toList_append, hsplit]
    have hbytes := hrest.bytes
    have hseven : byteLength "sha256:" = 7 := by decide
    rw [hvalue]
    unfold byteLength at *
    rw [String.utf8ByteSize_append]; omega
  · intro c hc
    rw [hsplit] at hc
    rcases mem_append.mp hc with hc | hc
    · have hall : "sha256:".toList.all (fun c => 32 ≤ c.toNat) := by decide
      exact of_decide_eq_true (all_eq_true.mp hall c hc)
    · exact hrest.plain c hc

lemma bounded_of_name {value : String} (h : exactContainerName value label = .ok ()) :
    Bounded value 253 := exactString_eq_ok (then_eq_ok.mp h).1

lemma bounded_of_nullable {exact : String → String → Check} {bytes : ℕ}
    (hexact : ∀ value label, exact value label = .ok () → Bounded value bytes)
    {value : Option String} (h : exactNullable exact value label = .ok ()) :
    byteLength (quoteOrNull value) ≤ 2 * bytes + 4 := by
  cases value with
  | none =>
    have hnull : byteLength "null" = 4 := by decide
    show byteLength "null" ≤ _; omega
  | some value =>
    have hquote := (hexact value label h).quote
    show byteLength (Js.quote value) ≤ _; omega

lemma byteLength_schema : byteLength "1" = 1 := by decide

lemma byteLength_phase (phase : Phase) : byteLength (quote phase.text) ≤ 30 := by
  cases phase <;> decide +kernel

lemma byteLength_keys (j : Journal) :
    (j.fields.map fun field => byteLength (quote field.1)).sum ≤ 680 := by
  have hkeys : j.fields.map (fun field => byteLength (quote field.1)) =
      ["schemaVersion", "phase", "bootstrapIdentity", "engineAuthorityId", "watcherLeaseId",
        "sandboxName", "sandboxId", "originalRuntimeId", "originalContainerName",
        "originalImageContentId", "originalSpecFingerprint", "replacementStateVolumeName",
        "replacementStateVolumeMountpoint", "replacementRuntimeId", "replacementStagingName",
        "replacementImageContentId", "replacementSpecFingerprint"].map
          fun key => byteLength (quote key) := rfl
  rw [hkeys]; decide +kernel

lemma byteLength_values (h : j.check = .ok ()) :
    (j.fields.map fun field => byteLength field.2).sum ≤ 20000 := by
  unfold Journal.check Journal.checkFields at h
  simp only [then_eq_ok, exactRuntimeId] at h
  obtain ⟨⟨hruntime, hmount, hid, hauthority, hlease, hname, hsandbox, horiginal, hcontainer,
    himage, hspec, hvolume, hstaging, hreplacement, hfingerprint, -⟩, -⟩ := h
  have hruntime := bounded_of_nullable (fun _ _ h => bounded_of_sha256 h) hruntime
  have hmount := bounded_of_nullable (fun _ _ h => exactString_eq_ok (then_eq_ok.mp h).1) hmount
  have hid := (bounded_of_sha256 hid).quote
  have hauthority := (exactString_eq_ok hauthority).quote
  have hlease := (exactString_eq_ok hlease).quote
  have hname := (exactString_eq_ok hname).quote
  have hsandbox := (exactString_eq_ok hsandbox).quote
  have horiginal := (bounded_of_sha256 horiginal).quote
  have hcontainer := (bounded_of_name hcontainer).quote
  have himage := (bounded_of_image himage).quote
  have hspec := (bounded_of_sha256 hspec).quote
  have hvolume := (bounded_of_name hvolume).quote
  have hstaging := (bounded_of_name hstaging).quote
  have hreplacement := (bounded_of_image hreplacement).quote
  have hfingerprint := (bounded_of_sha256 hfingerprint).quote
  have hphase := byteLength_phase j.phase
  have hschema : byteLength "1" = 1 := byteLength_schema
  simp only [Journal.fields, map_cons, map_nil, sum_cons, sum_nil]
  linarith

/-- A journal that passes its checks is never too long to be written. -/
theorem fits_of_check (h : j.check = .ok ()) : byteLength j.text ≤ maxJournalBytes := by
  have hobject := byteLength_objectText j.fields
  rw [sum_map_add, sum_map_add, map_const', sum_replicate] at hobject
  have hlength : j.fields.length = 17 := rfl
  have hkeys := byteLength_keys j
  have hvalues := byteLength_values h
  have hfeed : byteLength "\n" = 1 := by decide
  have htext : byteLength j.text = byteLength (objectText j.fields) + byteLength "\n" :=
    String.utf8ByteSize_append
  rw [hlength, smul_eq_mul] at hobject
  unfold maxJournalBytes; omega

lemma normalize_eq_ok {j' : Journal} :
    normalizePodmanBootstrapJournal j = .ok j' ↔ j' = j ∧ j.check = .ok () := by
  unfold normalizePodmanBootstrapJournal
  rw [bind_eq_ok]
  constructor
  · rintro ⟨u, hcheck, hj⟩; exact ⟨pure_eq_ok.mp hj, hcheck⟩
  · rintro ⟨hj, hcheck⟩; exact ⟨(), hcheck, pure_eq_ok.mpr hj⟩

lemma serialize_of_check (h : j.check = .ok ()) : serializePodmanBootstrapJournal j = .ok j := by
  refine bind_eq_ok.mpr ⟨j, normalize_eq_ok.mpr ⟨rfl, h⟩, bind_eq_ok.mpr ⟨(), ?_, rfl⟩⟩
  exact require_eq_ok.mpr (fits_of_check h)

lemma check_rollback (h : j.check = .ok ()) :
    ({ j with phase := .rollbackAuthorized } : Journal).check = .ok () := by
  unfold Journal.check at *
  rw [then_eq_ok] at *; exact ⟨h.1, require_eq_ok.mpr rfl⟩

lemma isLowerHexOf_of_check (h : j.check = .ok ()) :
    isLowerHexOf 64 j.bootstrapIdentity := by
  unfold Journal.check Journal.checkFields at h
  simp only [then_eq_ok] at h; exact require_eq_ok.mp h.1.2.2.1

/-! ## Files in good order -/

abbrev layout : Layout Target Content where
  journal id := ⟨id, .journal⟩
  decision id := ⟨id, .decision⟩
  isName x := isLowerHexOf 64 x.bootstrapIdentity
  stored _ c := ∃ j, c = .journal j ∧ j.check = .ok ()
  decides _ _ c' := c' = .decision
  journal_injective := fun _ _ h => congrArg Target.bootstrapIdentity h
  decision_injective := fun _ _ h => congrArg Target.bootstrapIdentity h
  apart := by simp

abbrev journalOf (id : String) : Target := layout.journal id

abbrev decisionOf (id : String) : Target := layout.decision id

/-- The journal of an identity, as its decision has it. -/
def value (F : Slots Target Content) (id : String) : Option Journal :=
  match F.lookup (journalOf id), F.lookup (decisionOf id) with
  | some ⟨.journal j, _⟩, some _ => some { j with phase := .rollbackAuthorized }
  | some ⟨.journal j, _⟩, none => some j
  | _, _ => none

section Good

variable {F : Slots Target Content} {id : String}

lemma slot_cases (h : Good layout F) (id : String) :
    (F.lookup (journalOf id) = none ∧ F.lookup (decisionOf id) = none) ∨
      ∃ j, F.lookup (journalOf id) = some ⟨.journal j, []⟩ ∧ j.check = .ok () ∧
        (F.lookup (decisionOf id) = none ∨ F.lookup (decisionOf id) = some ⟨.decision, []⟩) := by
  rcases h.slot id with hnone | ⟨c, hj, ⟨j, rfl, hcheck⟩, hd⟩
  · exact .inl hnone
  refine .inr ⟨j, hj, hcheck, ?_⟩
  rcases hd with hd | ⟨c', hd, rfl⟩
  · exact .inl hd
  · exact .inr hd

lemma reads : Reads layout .journal value where
  congr := by
    intro F F' id hj hd
    unfold value
    rw [hj, hd]
  absent := by
    intro F id hj
    unfold value
    rw [hj]
  undecided := by
    intro F id j hj hd
    unfold value
    rw [hj, hd]

lemma value_of_decided {j : Journal} {f : File Content}
    (hj : F.lookup (journalOf id) = some ⟨.journal j, []⟩)
    (hd : F.lookup (decisionOf id) = some f) :
    value F id = some { j with phase := .rollbackAuthorized } := by
  unfold value
  rw [hj, hd]

lemma with_rollback {j : Journal} (h : j.phase = .rollbackAuthorized) :
    ({ j with phase := .rollbackAuthorized } : Journal) = j := by
  cases j
  simp_all

lemma insert_journal (h : Good layout F) (hid : isLowerHexOf 64 id) {j : Journal}
    (hj : j.check = .ok ())
    (hd : j.phase = .rollbackAuthorized ∨ F.lookup (decisionOf id) = none) :
    Good layout (F.insert (journalOf id) ⟨.journal j, []⟩) ∧
      value (F.insert (journalOf id) ⟨.journal j, []⟩) =
        Function.update (value F) id (some j) := by
  have hfits : ∀ c', F.lookup (decisionOf id) = some ⟨c', []⟩ → c' = .decision := by
    intro c' hc'
    obtain ⟨c1, c2, hf, -, hdecides⟩ := h.decision id _ hc'
    cases hf; exact hdecides
  have hgood := h.insert_journal hid ⟨j, rfl, hj⟩ hfits
  refine ⟨hgood, reads.insert_journal ?_⟩
  rcases slot_cases hgood id with ⟨hnone, -⟩ | ⟨j', hj', -, hnone | hdecided⟩
  · rw [AList.lookup_insert] at hnone; cases hnone
  · exact reads.undecided (AList.lookup_insert _) hnone
  · rw [value_of_decided (AList.lookup_insert _) hdecided, with_rollback]
    refine hd.resolve_right ?_
    rw [← AList.lookup_insert_ne (layout.apart id id).symm, hdecided]
    exact Option.some_ne_none _

lemma insert_decision (h : Good layout F) (hid : isLowerHexOf 64 id) {j : Journal}
    (hj : F.lookup (journalOf id) = some ⟨.journal j, []⟩) :
    Good layout (F.insert (decisionOf id) ⟨.decision, []⟩) ∧
      value (F.insert (decisionOf id) ⟨.decision, []⟩) =
        Function.update (value F) id (some { j with phase := .rollbackAuthorized }) := by
  refine ⟨h.insert_decision hid hj rfl, reads.insert_decision ?_⟩
  exact value_of_decided ((AList.lookup_insert_ne (layout.apart id id)).trans hj)
    (AList.lookup_insert _)

end Good

/-- The files are in good order, and the journal file holds the journal. -/
abbrev Current := JournalCrash.Current layout Content.journal value

section Current

variable {F : Slots Target Content} {id : String} {j : Journal}

lemma Current.check (h : Current id (some j) F) : j.check = .ok () := by
  obtain ⟨c, hf, j', rfl, hcheck⟩ := h.good.journal id _ (h.file j rfl)
  cases hf; exact hcheck

lemma Current.undecided (h : Current id (some j) F) (hphase : j.phase ≠ .rollbackAuthorized) :
    F.lookup (decisionOf id) = none := by
  cases hd : F.lookup (decisionOf id) with
  | none => rfl
  | some f =>
  have hvalue := h.value
  rw [value_of_decided (h.file j rfl) hd] at hvalue
  have hsame := congrArg Journal.phase (Option.some.inj hvalue)
  exact absurd hsame.symm hphase

end Current

section Load

variable {d : Files Target Content} {id : String} {P : Slots Target Content → Prop}

lemma journalPath_eq (hid : isLowerHexOf 64 id) : journalPath id = .done (.ok ()) := by
  unfold journalPath exactSha256
  rw [require_eq_ok.mpr hid]; rfl

lemma rewrite_runs {j : Journal} (hid : isLowerHexOf 64 id) (hj : j.check = .ok ())
    (hP : P d.files → P (d.files.insert (journalOf id) ⟨.journal j, []⟩)) :
    Runs layout.isName P
      (fun d' r => d'.files = d.files.insert (journalOf id) ⟨.journal j, []⟩ ∧ r = .ok ())
      (rewrite id j) d := by
  have hname : layout.isName (journalOf id) := hid
  unfold rewrite
  rw [serialize_of_check hj]; exact atomicWrite_replaces hname hP

theorem load_runs (hid : isLowerHexOf 64 id) (hgood : Good layout d.files)
    (hP : ∀ F, Good layout F → value F = value d.files → P F) :
    Runs layout.isName P
      (fun d' r => r = .ok (value d.files id) ∧ Current id (value d.files id) d'.files ∧
        value d'.files = value d.files)
      (load id) d := by
  unfold load
  rw [journalPath_eq hid]
  refine (readPrivateFile_runs hgood.journal_whole).bind (fun d1 contents hd1 => ?_)
    fun _ _ hd => error_ne_ok hd.2
  obtain ⟨rfl, hcontents⟩ := hd1
  cases hcontents
  rcases slot_cases hgood id with ⟨hj, hd⟩ | ⟨j, hj, hcheck, hd⟩
  · have habsent := reads.absent hj
    rw [hj, habsent]; exact .done ⟨rfl, ⟨hgood, habsent, nofun⟩, rfl⟩
  · rw [hj]
    show Runs layout.isName P _ ((Tree.lift (serializePodmanBootstrapJournal j)).bind _) d1
    rw [serialize_of_check hcheck]
    refine (readPrivateFile_runs hgood.decision_whole).bind (fun d2 decision hd2 => ?_)
      fun _ _ hd => error_ne_ok hd.2
    obtain ⟨rfl, hdecision⟩ := hd2
    cases hdecision
    rcases hd with hd | hd
    · have hvalue := reads.undecided hj hd
      rw [hd, hvalue]; exact .done ⟨rfl, .of_file hgood hvalue hj, rfl⟩
    · have hvalue := value_of_decided hj hd
      rw [hd, hvalue]
      show Runs layout.isName P _ (if j.phase = .rollbackAuthorized then _ else _) d2
      split
      · next hphase =>
        have hsame := with_rollback hphase
        rw [hsame] at hvalue ⊢; exact .done ⟨rfl, .of_file hgood hvalue hj, rfl⟩
      · have hcheck' := check_rollback hcheck
        obtain ⟨hgood', hvalue'⟩ := insert_journal hgood hid hcheck' (.inl rfl)
        rw [← hvalue, Function.update_eq_self] at hvalue'
        rw [normalize_eq_ok.mpr ⟨rfl, hcheck'⟩]
        refine (rewrite_runs hid hcheck' fun _ => hP _ hgood' hvalue').bind
          (fun d3 _ hd3 => ?_) fun _ _ hd => error_ne_ok hd.2
        refine .done ⟨rfl, ?_⟩
        rw [hd3.1, hvalue']
        exact ⟨.of_file hgood' (by rw [hvalue', hvalue]) (AList.lookup_insert _), rfl⟩

lemma loads : Loads layout .journal value load where
  runs := load_runs
  reads hid := by
    unfold load
    rw [journalPath_eq hid]; exact ⟨_, rfl⟩
  invalid hid := by
    unfold load journalPath exactSha256 require
    rw [if_neg hid]; exact ⟨_, rfl⟩

lemma loadAll_runs {before : String → Option Journal} {identities : List String}
    (hgood : Good layout d.files) (hvalue : value d.files = before) :
    Runs layout.isName (fun F => Good layout F ∧ value F = before)
      (fun _ r => (∀ id ∈ identities, isLowerHexOf 64 id ∧ before id ≠ none) →
        ∃ journals, r = .ok journals)
      (loadAll identities) d := by
  induction identities generalizing d with
  | nil => exact .done fun _ => ⟨[], rfl⟩
  | cons id identities ih =>
    by_cases hid : isLowerHexOf 64 id
    · refine (load_runs hid hgood fun F hF hsame => ⟨hF, hsame.trans hvalue⟩).bind
        (fun d1 journal hd1 => ?_) fun _ _ hd => error_ne_ok hd.1
      obtain ⟨hjournal, hcurrent, hvalue1⟩ := hd1
      cases hjournal
      rw [hvalue] at hvalue1 ⊢
      cases hv : before id with
      | none => exact .done fun hall => absurd hv (hall id mem_cons_self).2
      | some j =>
      refine (ih hcurrent.good hvalue1).bind (fun d2 journals hd2 => ?_) fun d2 e hd2 hall => ?_
      · exact .done fun _ => ⟨j :: journals, rfl⟩
      · obtain ⟨journals, hjournals⟩ := hd2 fun id' hid' => hall id' (mem_cons_of_mem _ hid')
        cases hjournals
    · obtain ⟨e, he⟩ := loads.invalid hid
      unfold loadAll
      rw [he]; exact .done fun hall => absurd (hall id mem_cons_self).1 hid

end Load

/-! ## Operations -/

inductive Op where
  | load (bootstrapIdentity : String)
  | create (journal : Journal)
  | listUnfinished
  | recordStateVolume (bootstrapIdentity replacementStateVolumeMountpoint : String)
  | recordReplacement (bootstrapIdentity replacementRuntimeId : String)
  | recordOriginalStopped (bootstrapIdentity : String)
  | authorizeRollback (bootstrapIdentity : String) (expected : List Phase)
  | removeAfterRollback (bootstrapIdentity : String)

def Op.program (stamps : ℕ → Stamp) : Op → StoreProgram Unit
  | load id => do let _ ← PodmanJournal.load id
  | create j => PodmanJournal.create j
  | listUnfinished => do let _ ← PodmanJournal.listUnfinished stamps
  | recordStateVolume id mountpoint => do let _ ← PodmanJournal.recordStateVolume id mountpoint
  | recordReplacement id runtimeId => do let _ ← PodmanJournal.recordReplacement id runtimeId
  | recordOriginalStopped id => do let _ ← PodmanJournal.recordOriginalStopped id
  | authorizeRollback id expected => do let _ ← PodmanJournal.authorizeRollback id expected
  | removeAfterRollback id => PodmanJournal.removeAfterRollback id

section Settles

variable {d : Files Target Content} {id : String} {before : String → Option Journal}
  {α : Type}

lemma settles_found {f : Option Journal → StoreProgram α} (hgood : Good layout d.files)
    (hnone : ∃ r, f none = .done r)
    (hok : ∀ j d', isLowerHexOf 64 id → Current id (some j) d'.files →
      value d'.files = value d.files → Settles layout value (value d.files) (f (some j)) d') :
    Settles layout value (value d.files) ((journalPath id).bind fun _ => (load id).bind f) d := by
  exact Settles.lift hgood rfl fun _ _ => loads.found hgood hnone fun j d' _ => hok j d'

/-- A journal that is not rolled back is rewritten in one call; a load and a comparison
leave it as it is. -/
lemma rewriteAndLoad_settles {j updated : Journal} {message : String}
    (hid : isLowerHexOf 64 id) (hcurrent : Current id (some j) d.files)
    (hvalue : value d.files = before) (hphase : j.phase ≠ .rollbackAuthorized)
    (hupdated : updated.check = .ok ()) :
    Settles layout value before (rewriteAndLoad id updated message) d := by
  obtain ⟨hgood1, hvalue1⟩ :=
    insert_journal hcurrent.good hid hupdated (.inr (hcurrent.undecided hphase))
  rw [hvalue] at hvalue1
  refine ⟨Function.update before id (some updated), ?_⟩
  refine (rewrite_runs hid hupdated fun _ => .inr ⟨hgood1, .inr hvalue1⟩).bind
    (fun d1 _ hd1 => ?_) fun _ _ hd => nomatch hd.2
  obtain ⟨hd1, -⟩ := hd1
  rw [← hd1] at hgood1 hvalue1
  refine loads.reload hid hgood1 hvalue1 fun persisted d2 hend => ?_
  cases persisted with
  | none => exact .done hend
  | some j2 =>
  refine Runs.lift (fun same _ => ?_) fun _ _ => hend
  cases same <;> exact .done hend

lemma normalizeAndLoad_settles {j updated : Journal} {phase : Phase} {message : String}
    (hid : isLowerHexOf 64 id) (hcurrent : Current id (some j) d.files)
    (hvalue : value d.files = before) (hphase : ¬ j.phase ≠ phase)
    (hne : phase ≠ .rollbackAuthorized) :
    Settles layout value before ((Tree.lift (normalizePodmanBootstrapJournal updated)).bind
      fun updated => rewriteAndLoad id updated message) d := by
  refine Settles.lift hcurrent.good hvalue fun updated' hupdated => ?_
  obtain ⟨rfl, hcheck⟩ := normalize_eq_ok.mp hupdated
  rw [← not_not.mp hphase] at hne
  exact rewriteAndLoad_settles hid hcurrent hvalue hne hcheck

section

variable (hgood : Good layout d.files)
include hgood

lemma create_settles {j : Journal} : Settles layout value (value d.files) (create j) d := by
  refine Settles.lift hgood rfl fun j' hj' => ?_
  obtain ⟨rfl, hcheck⟩ := normalize_eq_ok.mp hj'
  have hid := isLowerHexOf_of_check hcheck
  split
  · exact .done hgood rfl
  refine Settles.bind (readPrivateFile_runs hgood.decision_whole) hgood rfl
    fun d1 decision hd1 _ _ => ?_
  obtain ⟨rfl, hdecision⟩ := hd1
  cases hdecision
  cases hd : d1.files.lookup (decisionOf j'.bootstrapIdentity) with
  | some f => exact .done hgood rfl
  | none =>
    rw [serialize_of_check hcheck]
    exact Reads.publish hgood hid (insert_journal hgood hid hcheck (.inr hd))

lemma listUnfinished_settles {stamps : ℕ → Stamp} :
    Settles layout value (value d.files) (listUnfinished stamps) d := by
  have hread : Runs layout.isName (fun F => Good layout F ∧ value F = value d.files)
      (fun _ _ => True) readdirSync d := Runs.ask .same trivial
  refine Settles.bind hread hgood rfl fun d1 entries _ hgood1 hvalue1 => ?_
  refine Settles.lift hgood1 hvalue1 fun names _ => ?_
  unfold loadListed
  split
  · exact .done hgood1 hvalue1
  · exact Settles.quiet (loadAll_runs hgood1 hvalue1) hgood1 hvalue1

lemma recordStateVolume_settles {mountpoint : String} :
    Settles layout value (value d.files) (recordStateVolume id mountpoint) d := by
  refine Settles.lift hgood rfl fun _ _ => settles_found hgood ⟨_, rfl⟩ fun j d' hid hcurrent hvalue => ?_
  show Settles layout value _ (if j.phase = .stateVolumeCreated then
    (if j.replacementStateVolumeMountpoint ≠ some mountpoint then _ else _)
    else if j.phase ≠ .preparingReplacement then _ else _) d'
  split
  · split <;> exact .done hcurrent.good hvalue
  · split
    · exact .done hcurrent.good hvalue
    · next hphase => exact normalizeAndLoad_settles hid hcurrent hvalue hphase nofun

lemma recordReplacement_settles {runtimeId : String} :
    Settles layout value (value d.files) (recordReplacement id runtimeId) d := by
  refine Settles.lift hgood rfl fun _ _ => settles_found hgood ⟨_, rfl⟩ fun j d' hid hcurrent hvalue => ?_
  show Settles layout value _ (if j.phase = .replacementCreated then
    (if j.replacementRuntimeId ≠ some runtimeId then _ else _)
    else if j.phase ≠ .stateVolumeCreated then _ else _) d'
  split
  · split <;> exact .done hcurrent.good hvalue
  · split
    · exact .done hcurrent.good hvalue
    · next hphase => exact normalizeAndLoad_settles hid hcurrent hvalue hphase nofun

lemma recordOriginalStopped_settles :
    Settles layout value (value d.files) (recordOriginalStopped id) d := by
  refine settles_found hgood ⟨_, rfl⟩ fun j d' hid hcurrent hvalue => ?_
  show Settles layout value _ (if j.phase = .originalStopped then _
    else if j.phase ≠ .replacementCreated then _ else _) d'
  split
  · exact .done hcurrent.good hvalue
  · split
    · exact .done hcurrent.good hvalue
    · next hphase => exact normalizeAndLoad_settles hid hcurrent hvalue hphase nofun

end

lemma publishDecision_runs {P : Slots Target Content → Prop}
    (hid : isLowerHexOf 64 id) (hfree : d.files.lookup (decisionOf id) = none)
    (hlink : ∀ n, P (d.files.insert (decisionOf id) ⟨.decision, [n]⟩))
    (hunlink : P (d.files.insert (decisionOf id) ⟨.decision, []⟩)) :
    Runs layout.isName P
      (fun d' r => d'.files = d.files.insert (decisionOf id) ⟨.decision, []⟩ ∧ r = .ok ())
      (publishDecision id) d := by
  have hname : layout.isName (decisionOf id) := hid
  have hpublish := atomicWrite_publishes hname hfree (fun n _ => hlink n) fun _ _ => hunlink
  exact Safe.handle (fun _ => rfl) hpublish (fun _ _ hd => hd) fun _ _ hd => nomatch hd.2

lemma authorizeRollback_settles {expected : List Phase} (hgood : Good layout d.files) :
    Settles layout value (value d.files) (authorizeRollback id expected) d := by
  unfold authorizeRollback
  split
  · exact .done hgood rfl
  refine settles_found hgood ⟨_, rfl⟩ fun j d' hid hcurrent hvalue => ?_
  show Settles layout value _ (if j.phase = .rollbackAuthorized then _
    else if j.phase ∉ expected then _ else _) d'
  split
  · exact .done hcurrent.good hvalue
  next hphase =>
  split
  · exact .done hcurrent.good hvalue
  have hcheck := check_rollback hcurrent.check
  obtain ⟨hgood1, hvalue1⟩ := insert_decision hcurrent.good hid (hcurrent.file j rfl)
  obtain ⟨hgood2, hvalue2⟩ := insert_journal hgood1 hid hcheck (.inl rfl)
  rw [hvalue] at hvalue1
  rw [hvalue1, Function.update_idem] at hvalue2
  rw [normalize_eq_ok.mpr ⟨rfl, hcheck⟩]
  refine ⟨Function.update (value d.files) id
    (some { j with phase := .rollbackAuthorized }), ?_⟩
  refine (publishDecision_runs hid (hcurrent.undecided hphase)
    (fun _ => .inl Torn.insert_decision) (.inr ⟨hgood1, .inr hvalue1⟩)).bind
    (fun d1 _ hd1 => ?_) fun _ _ hd => nomatch hd.2
  obtain ⟨hd1, -⟩ := hd1
  rw [← hd1] at hgood2 hvalue2
  refine (rewrite_runs hid hcheck fun _ => .inr ⟨hgood2, .inr hvalue2⟩).bind
    (fun d2 _ hd2 => ?_) fun _ _ hd => nomatch hd.2
  refine .done ?_
  rw [hd2.1]; exact ⟨hgood2, hvalue2⟩

lemma removeAfterRollback_settles (hgood : Good layout d.files) :
    Settles layout value (value d.files) (removeAfterRollback id) d := by
  refine settles_found hgood ⟨_, rfl⟩ fun j d' hid hcurrent hvalue => ?_
  show Settles layout value _ (if j.phase ≠ .rollbackAuthorized then _ else _) d'
  split
  · exact .done hcurrent.good hvalue
  · exact reads.remove hcurrent hvalue hid hid rfl fun _ => rfl

end Settles

theorem Op.settles {stamps : ℕ → Stamp} (op : Op) (hgood : Good layout d.files) :
    Settles layout value (value d.files) (op.program stamps) d := by
  cases op with
  | load id => exact loads.settles hgood rfl fun _ _ hcurrent hvalue => .done hcurrent.good hvalue
  | create j => exact create_settles hgood
  | listUnfinished => exact (listUnfinished_settles hgood).void
  | recordStateVolume id mountpoint => exact (recordStateVolume_settles hgood).void
  | recordReplacement id runtimeId => exact (recordReplacement_settles hgood).void
  | recordOriginalStopped id => exact (recordOriginalStopped_settles hgood).void
  | authorizeRollback id expected => exact (authorizeRollback_settles hgood).void
  | removeAfterRollback id => exact removeAfterRollback_settles hgood

lemma dot_notMem_pieces {x : Target} (h : layout.isName x) : ∀ piece ∈ x.pieces, '.' ∉ piece := by
  have hid : '.' ∉ x.bootstrapIdentity.toList := by
    have hhex : isLowerHexOf 64 x.bootstrapIdentity := h
    exact dot_notMem (by decide) (Bool.and_eq_true _ _ ▸ hhex).2
  intro piece hpiece
  rcases mem_append.mp hpiece with hpiece | hpiece
  · rcases mem_cons.mp hpiece with rfl | hpiece
    · exact hid
    · obtain rfl := mem_singleton.mp hpiece; decide
  · revert hpiece
    cases x.kind with
    | journal => exact nofun
    | decision =>
      intro hpiece
      obtain rfl := mem_singleton.mp hpiece; decide

inductive Reading (name : List Char) : Entry Target → Prop where
  | journal (id : String) (hname : journalName name = some id) :
      Reading name (.file ⟨id, .journal⟩)
  | decision (id : String) (hnone : journalName name = none)
      (hname : decisionName name = some id) : Reading name (.file ⟨id, .decision⟩)
  | temporary (x : Target) (n : ℕ) (hnone : journalName name = none)
      (hnone' : decisionName name = none) (hname : isTemporaryName name) :
      Reading name (.temporary x n)

lemma reading_entryName {e : Entry Target} (h : layout.isName (target e)) :
    Reading (entryName stamps e) e := by
  have hpieces := dot_notMem_pieces h
  have hid : isSha256 (target e).bootstrapIdentity.toList := h
  cases e with
  | file x =>
    obtain ⟨id, kind⟩ := x
    have hsplit : (entryName stamps (.file ⟨id, kind⟩)).splitOn '.' = Target.pieces ⟨id, kind⟩ :=
      splitOn_intercalate '.' hpieces (by simp [Target.pieces])
    have hid' : isSha256 id.toList := hid
    cases kind with
    | journal =>
      refine .journal id ?_
      unfold journalName
      rw [hsplit]; simp [Target.pieces, Kind.suffix, hid', String.ofList_toList]
    | decision =>
      refine .decision id ?_ ?_
      · unfold journalName
        rw [hsplit]; rfl
      · unfold decisionName
        rw [hsplit]; simp [Target.pieces, Kind.suffix, hid', String.ofList_toList]
  | temporary x n =>
    obtain ⟨id, kind⟩ := x
    have hid' : isSha256 id.toList := hid
    have huuid := (stamps n).uuid_hex
    have hstamp : isStamp (stamps n).uuid := by
      unfold isStamp
      rw [huuid.2, Bool.and_true]; exact decide_eq_true huuid.1
    have hsplit : (entryName stamps (.temporary ⟨id, kind⟩ n)).splitOn '.' =
        [[]] ++ Target.pieces ⟨id, kind⟩ ++ [(stamps n).uuid, "tmp".toList] := by
      refine splitOn_intercalate '.' ?_ (by simp)
      intro piece hpiece
      rcases mem_append.mp hpiece with hpiece | hpiece
      · rcases mem_append.mp hpiece with hpiece | hpiece
        · rw [mem_singleton.mp hpiece]; exact not_mem_nil
        · exact hpieces piece hpiece
      · simp only [mem_cons, not_mem_nil, or_false] at hpiece
        rcases hpiece with rfl | rfl
        · exact dot_notMem (by decide) huuid.2
        · decide
    cases kind with
    | journal =>
      refine .temporary _ n ?_ ?_ ?_
      · unfold journalName
        rw [hsplit]; rfl
      · unfold decisionName
        rw [hsplit]; rfl
      · unfold isTemporaryName
        rw [hsplit]; simp [Target.pieces, Kind.suffix, hid', hstamp]
    | decision =>
      refine .temporary _ n ?_ ?_ ?_
      · unfold journalName
        rw [hsplit]; rfl
      · unfold decisionName
        rw [hsplit]; rfl
      · unfold isTemporaryName
        rw [hsplit]; simp [Target.pieces, Kind.suffix, hid', hstamp]

lemma readNames_ok {entries : List (Entry Target)} (h : ∀ e ∈ entries, layout.isName (target e)) :
    ∃ identities decisions, readNames (entries.map (entryName stamps)) = .ok (identities, decisions) ∧
      (∀ id, id ∈ identities ↔ .file ⟨id, .journal⟩ ∈ entries) ∧
      ∀ id, id ∈ decisions ↔ .file ⟨id, .decision⟩ ∈ entries := by
  induction entries with
  | nil => exact ⟨[], [], rfl, by simp, by simp⟩
  | cons e entries ih =>
    obtain ⟨identities, decisions, hread, hidentities, hdecisions⟩ :=
      ih fun e' he' => h e' (mem_cons_of_mem _ he')
    have hreading := reading_entryName stamps (h e mem_cons_self)
    rw [map_cons, readNames, hread]
    generalize entryName stamps e = name at hreading
    cases hreading with
    | journal id hname =>
      rw [hname]
      refine ⟨id :: identities, decisions, rfl, fun id' => ?_, fun id' => ?_⟩
      · simp [hidentities]
      · simp [hdecisions]
    | decision id hnone hname =>
      rw [hnone, hname]
      refine ⟨identities, id :: decisions, rfl, fun id' => ?_, fun id' => ?_⟩
      · simp [hidentities]
      · simp [hdecisions]
    | temporary x n hnone hnone' hname =>
      rw [hnone, hnone']
      refine ⟨identities, decisions, if_pos hname, fun id' => ?_, fun id' => ?_⟩
      · simp [hidentities]
      · simp [hdecisions]

lemma file_mem_entries {x : Target} : .file x ∈ d.entries ↔ ∃ f, d.files.lookup x = some f := by
  constructor
  · intro h
    rcases mem_append.mp h with h | h
    · obtain ⟨⟨y, f⟩, hy, h⟩ := mem_flatMap.mp h
      rcases mem_cons.mp h with h | h
      · cases h; exact ⟨f, AList.mem_lookup_iff.mpr hy⟩
      · obtain ⟨n, -, h⟩ := mem_map.mp h; cases h
    · obtain ⟨y, -, h⟩ := mem_map.mp h; cases h
  · rintro ⟨f, hf⟩
    refine mem_append_left _ (mem_flatMap.mpr ⟨⟨x, f⟩, AList.mem_lookup_iff.mp hf, ?_⟩)
    exact mem_cons_self

/-- Every decision has its journal, and every journal is loaded. -/
lemma listUnfinished_succeeds (h : Sound layout d) :
    ∃ listed, ((listUnfinished stamps).finish Files.exec d).2 = .ok listed := by
  obtain ⟨identities, decisions, hread, hidentities, hdecisions⟩ := readNames_ok stamps h.entries
  have hpaired : decisions.find? (· ∉ identities) = none := by
    refine List.find?_eq_none.mpr fun id hid => ?_
    rw [decide_eq_true_eq, not_not]
    obtain ⟨f, hf⟩ := file_mem_entries.mp ((hdecisions id).mp hid)
    obtain ⟨c', c, -, hjournal, -⟩ := h.good.decision id f hf
    exact (hidentities id).mpr (file_mem_entries.mpr ⟨_, hjournal⟩)
  have hpresent : ∀ id ∈ identities.insertionSort (· ≤ ·),
      isLowerHexOf 64 id ∧ value d.files id ≠ none := by
    intro id hid
    rw [mem_insertionSort] at hid
    obtain ⟨f, hf⟩ := file_mem_entries.mp ((hidentities id).mp hid)
    refine ⟨h.good.names (journalOf id) f hf, ?_⟩
    obtain ⟨c, rfl, j, rfl, -⟩ := h.good.journal id f hf
    cases hd : d.files.lookup (decisionOf id) with
    | none => rw [reads.undecided hf hd]; exact Option.some_ne_none j
    | some g => rw [value_of_decided hf hd]; exact Option.some_ne_none _
  have hall := @loadAll_runs d (value d.files) (identities.insertionSort (· ≤ ·)) h.good rfl
  obtain ⟨journals, hjournals⟩ := hall.finish hpresent
  refine ⟨journals, ?_⟩
  have hcall : (listUnfinished stamps).finish Files.exec d =
      ((Tree.lift (readNames (d.entries.map (entryName stamps)))).bind fun names =>
        loadListed names.1 names.2).finish Files.exec d := rfl
  have hlisted : loadListed identities decisions =
      loadAll (identities.insertionSort (· ≤ ·)) := by
    unfold loadListed
    rw [hpaired]
  rw [hcall, hread]
  show ((loadListed identities decisions).finish Files.exec d).2 = _
  rw [hlisted]; exact hjournals

/-- Every operation may be taken. -/
def Op.Fits (_ : Files Target Content) (_ : Op) : Prop := True

theorem podman_survives {id : String} (hid : isLowerHexOf 64 id) {acts : List (Act Op)}
    (hacts : Runs.Along (step (Op.program stamps))
      (Whole layout (Op.program stamps) Op.Fits) Files.empty acts)
    (hrun : Runs.run (step (Op.program stamps)) Files.empty acts = some d) {op : Op} {calls : ℕ}
    (hcrash : Whole layout (Op.program stamps) Op.Fits d (.crash op calls)) :
    Survives (load id) (listUnfinished stamps) (op.program stamps) calls d :=
  survives_of_run (fun v => v id) (fun _ op hgood _ => op.settles hgood)
    (fun _ hd => loads.finish hid hd.good) (fun _ hd => listUnfinished_succeeds stamps hd)
    hacts hrun hcrash

lemma create_eq (hcheck : j.check = .ok ()) (hphase : j.phase = .preparingReplacement) :
    create j =
      (readPrivateFile (decisionOf j.bootstrapIdentity) "rollback decision").bind fun decision =>
        match decision with
        | some _ => failStore "stale rollback decision exists for this bootstrap identity"
        | none => atomicWrite (journalOf j.bootstrapIdentity) (.journal j) true := by
  unfold create
  rw [normalize_eq_ok.mpr ⟨rfl, hcheck⟩]
  show (if j.phase ≠ .preparingReplacement then _ else _) = _
  rw [if_neg (not_not.mpr hphase)]
  refine congrArg (Tree.bind _) (funext fun decision => ?_)
  cases decision with
  | some _ => rfl
  | none => rw [serialize_of_check hcheck]; rfl

lemma create_crashed (hcheck : j.check = .ok ()) (hphase : j.phase = .preparingReplacement) :
    (crashed (create j) 3 Files.empty).files = ∅ ∧
      (crashed (create j) 3 (crashed (create j) 3 Files.empty)).files = ∅ ∧
      (crashed (create j) 4 Files.empty).files =
        (∅ : Slots Target Content).insert (journalOf j.bootstrapIdentity) ⟨.journal j, [0]⟩ := by
  rw [create_eq hcheck hphase]; exact ⟨rfl, rfl, rfl⟩

lemma create_linkCrash (hcheck : j.check = .ok ()) (hphase : j.phase = .preparingReplacement) :
    ((load j.bootstrapIdentity).finish Files.exec (crashed (create j) 4 Files.empty)).2 =
      .error (.invalid "journal file ownership boundary is invalid") := by
  have hfile : (crashed (create j) 4 Files.empty).files.lookup (journalOf j.bootstrapIdentity) =
      some ⟨.journal j, [0]⟩ := by
    rw [(create_crashed hcheck hphase).2.2]; exact AList.lookup_insert _
  exact loads.linked (isLowerHexOf_of_check hcheck) hfile

end NemoClaw.PodmanJournal
