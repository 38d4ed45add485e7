import NemoClaw.Onboard.DockerJournalCrash
import NemoClaw.Onboard.PodmanJournalCrash

/- Crashes of the two managed-bootstrap journal stores.

What is proved:
  1. `managedBootstrapJournals_survive` — after any run of operations and crashes that
     are whole, and one more such crash, every journal is found as it was before the
     operation or as it is after it, and the directory can be listed.
  2. `managedBootstrapJournals_linkCrash` — a crash between the link and the unlink of
     the journal that is created leaves a file with two names, which no load reads.
-/
namespace NemoClaw.ManagedBootstrap

open Js CallTree PrivateFiles JournalCrash

theorem managedBootstrapJournals_survive (dockerStamps : ℕ → DockerJournal.Stamp)
    (podmanStamps : ℕ → PodmanJournal.Stamp) {id : String} (hid : isLowerHexOf 64 id) :
    (∀ acts d op calls,
      Runs.Along (step DockerJournal.Op.program)
        (Whole DockerJournal.layout DockerJournal.Op.program DockerJournal.Op.Fits)
        Files.empty acts →
      Runs.run (step DockerJournal.Op.program) Files.empty acts = some d →
      Whole DockerJournal.layout DockerJournal.Op.program DockerJournal.Op.Fits d
        (.crash op calls) →
      Survives (DockerJournal.load id) (DockerJournal.listUnfinishedIdentities dockerStamps)
        op.program calls d) ∧
    ∀ acts d op calls,
      Runs.Along (step (PodmanJournal.Op.program podmanStamps))
        (Whole PodmanJournal.layout (PodmanJournal.Op.program podmanStamps)
          PodmanJournal.Op.Fits) Files.empty acts →
      Runs.run (step (PodmanJournal.Op.program podmanStamps)) Files.empty acts = some d →
      Whole PodmanJournal.layout (PodmanJournal.Op.program podmanStamps) PodmanJournal.Op.Fits d
        (.crash op calls) →
      Survives (PodmanJournal.load id) (PodmanJournal.listUnfinished podmanStamps)
        (op.program podmanStamps) calls d := by
  constructor
  · intro acts d op calls hacts hrun hcrash
    exact DockerJournal.docker_survives dockerStamps hid hacts hrun hcrash
  · intro acts d op calls hacts hrun hcrash
    exact PodmanJournal.podman_survives podmanStamps hid hacts hrun hcrash

def hexDigits (c : Char) : String := .ofList (List.replicate 64 c)

def dockerJournal : DockerJournal.Journal where
  phase := .staged
  bootstrapIdentity := hexDigits 'a'
  providerId := "docker"
  agent := .openclaw
  sandbox := ⟨"alpha", "sandbox-1", "docker"⟩
  planFingerprint := hexDigits 'b'
  profileFingerprint := hexDigits 'b'
  imageReference := "image"
  runtimeImageContentId := "content"
  originalRuntimeId := hexDigits 'c'
  replacementRuntimeId := hexDigits 'd'
  originalName := "alpha"
  replacementStagingName := "alpha-staging"
  backupName := "alpha-backup"
  originalSpecHash := hexDigits 'e'
  replacementSpecHash := hexDigits 'f'
  rollbackTargetRuntimeId := hexDigits 'c'
  rollbackTargetSpecHash := hexDigits 'e'
  preparationReceipt := some
    ⟨⟨"alpha", "sandbox-1", "docker"⟩, hexDigits 'a', hexDigits 'b', "record",
      "2026-01-01T00:00:00.000Z"⟩
  commitReceipt := none

def podmanJournal : PodmanJournal.Journal where
  phase := .preparingReplacement
  bootstrapIdentity := hexDigits 'a'
  engineAuthorityId := "podman-sha256:" ++ hexDigits 'b'
  watcherLeaseId := "01234567-89ab-4cde-8f01-23456789abcd"
  sandboxName := "alpha"
  sandboxId := "sandbox-1"
  originalRuntimeId := hexDigits 'c'
  originalContainerName := "alpha"
  originalImageContentId := "sha256:" ++ hexDigits 'd'
  originalSpecFingerprint := hexDigits 'e'
  replacementStateVolumeName := "alpha-state"
  replacementStateVolumeMountpoint := none
  replacementRuntimeId := none
  replacementStagingName := "alpha-staging"
  replacementImageContentId := "sha256:" ++ hexDigits 'd'
  replacementSpecFingerprint := hexDigits 'f'

def dockerStamp : DockerJournal.Stamp := ⟨['1'], ['a'], by decide, by decide⟩

def podmanStamp : PodmanJournal.Stamp := ⟨['a'], by decide⟩

lemma isLowerHexOf_hexDigits {c : Char} (hc : isLowerHex c) : isLowerHexOf 64 (hexDigits c) := by
  simp [isLowerHexOf, hexDigits, hc]

lemma isDigestAfter_hexDigits (start : String) {c : Char} (hc : isLowerHex c) :
    PodmanJournal.isDigestAfter start.toList (start ++ hexDigits c) := by
  simp [PodmanJournal.isDigestAfter, isLowerHexOf_hexDigits hc]

lemma dockerJournal_check : dockerJournal.check = .ok () := by
  have hhex : ∀ (c : Char) {label}, isLowerHex c →
      DockerJournal.exactSha256 (hexDigits c) label = .ok () :=
    fun _ _ hc => if_pos (isLowerHexOf_hexDigits hc)
  unfold DockerJournal.Journal.check
  simp only [PodmanJournal.then_eq_ok]
  refine ⟨hhex 'a' rfl, ?_, ?_, hhex 'b' rfl, hhex 'b' rfl, ?_, ?_, hhex 'c' rfl, hhex 'd' rfl,
    ?_, ?_, ?_, hhex 'e' rfl, hhex 'f' rfl, hhex 'c' rfl, hhex 'e' rfl, ?_, ?_, ?_, ?_, ?_⟩
  all_goals decide +kernel

lemma dockerJournal_fits : byteLength dockerJournal.text ≤ DockerJournal.maxJournalBytes := by
  unfold DockerJournal.Journal.text dockerJournal hexDigits
  simp only [DockerJournal.textOrNull, DockerJournal.PreparationReceipt.text, objectText,
    List.map, DockerJournal.Sandbox.text, DockerJournal.Phase.text]
  repeat rw [quote_ofList]
  all_goals decide +kernel

lemma dockerJournal_creatable : DockerJournal.Creatable dockerJournal where
  stored := ⟨dockerJournal_check, dockerJournal_fits, rfl⟩
  staged := rfl
  prepared := Option.some_ne_none _
  uncommitted := rfl

lemma podmanJournal_check : podmanJournal.check = .ok () := by
  have hhex : ∀ (c : Char) {label}, isLowerHex c →
      PodmanJournal.exactSha256 (hexDigits c) label = .ok () :=
    fun _ _ hc => if_pos (isLowerHexOf_hexDigits hc)
  have himage : ∀ label, PodmanJournal.exactImageContentId ("sha256:" ++ hexDigits 'd') label =
      .ok () := fun _ => PodmanJournal.require_eq_ok.mpr (isDigestAfter_hexDigits "sha256:" rfl)
  unfold PodmanJournal.Journal.check PodmanJournal.Journal.checkFields
  simp only [PodmanJournal.then_eq_ok, PodmanJournal.exactRuntimeId]
  refine ⟨⟨?_, ?_, hhex 'a' rfl, ?_, ?_, ?_, ?_, hhex 'c' rfl, ?_, himage _, hhex 'e' rfl, ?_, ?_,
    himage _, hhex 'f' rfl, ?_, ?_, ?_, ?_⟩, ?_⟩
  all_goals decide +kernel

lemma not_torn_empty {T C : Type} [DecidableEq T] {L : Layout T C} {F : Slots T C}
    (h : F = ∅) : ¬Torn L F := by
  subst h; exact Good.empty.not_torn

/-- An operation that is cut before the link, and cut there once more. -/
lemma cut_twice {T C Op : Type} [DecidableEq T] (L : Layout T C) (program : Op → Program T C Unit)
    (fits : Files T C → Op → Prop) (op : Op) (hfits : ∀ d, fits d op)
    (hfirst : (crashed (program op) 3 Files.empty).files = ∅)
    (hsecond : (crashed (program op) 3 (crashed (program op) 3 Files.empty)).files = ∅) :
    Runs.Along (step program) (Whole L program fits) Files.empty [.crash op 3] ∧
      Runs.run (step program) Files.empty [.crash op 3] =
        some (crashed (program op) 3 Files.empty) ∧
      Whole L program fits (crashed (program op) 3 Files.empty) (.crash op 3) :=
  ⟨⟨⟨hfits _, not_torn_empty hfirst⟩, fun _ _ => trivial⟩, rfl,
    ⟨hfits _, not_torn_empty hsecond⟩⟩

/-- Creations that are cut before the link, after others that were cut there. -/
theorem managedBootstrapJournals_survive_create :
    Survives (DockerJournal.load (hexDigits 'a'))
      (DockerJournal.listUnfinishedIdentities fun _ => dockerStamp)
      (DockerJournal.Op.create dockerJournal).program 3
      (crashed (DockerJournal.create dockerJournal) 3 Files.empty) ∧
    Survives (PodmanJournal.load (hexDigits 'a'))
      (PodmanJournal.listUnfinished fun _ => podmanStamp)
      ((PodmanJournal.Op.create podmanJournal).program fun _ => podmanStamp) 3
      (crashed (PodmanJournal.create podmanJournal) 3 Files.empty) := by
  have hid : isLowerHexOf 64 (hexDigits 'a') := isLowerHexOf_hexDigits rfl
  constructor
  · obtain ⟨hfirst, hsecond, -⟩ := DockerJournal.create_crashed dockerJournal_creatable
    obtain ⟨hacts, hrun, hcrash⟩ := cut_twice DockerJournal.layout DockerJournal.Op.program
      DockerJournal.Op.Fits (.create dockerJournal) (fun _ => trivial) hfirst hsecond
    exact (managedBootstrapJournals_survive (fun _ => dockerStamp) (fun _ => podmanStamp) hid).1
      _ _ _ 3 hacts hrun hcrash
  · obtain ⟨hfirst, hsecond, -⟩ := PodmanJournal.create_crashed podmanJournal_check rfl
    obtain ⟨hacts, hrun, hcrash⟩ := cut_twice PodmanJournal.layout (PodmanJournal.Op.program
      fun _ => podmanStamp) PodmanJournal.Op.Fits (.create podmanJournal) (fun _ => trivial)
      hfirst hsecond
    exact (managedBootstrapJournals_survive (fun _ => dockerStamp) (fun _ => podmanStamp) hid).2
      _ _ _ 3 hacts hrun hcrash

lemma not_survives {T C α β : Type} [DecidableEq T] {load : Program T C α}
    {list : Program T C β} {t : Program T C Unit} {calls : ℕ} {d : Files T C} {e : Failure}
    (h : (load.finish Files.exec (crashed t calls d)).2 = .error e) :
    ¬Survives load list t calls d := by
  rintro ⟨⟨v, hv, -⟩, -⟩
  rw [hv] at h; cases h

/-- Creations that are cut between the link and the unlink. -/
theorem managedBootstrapJournals_linkCrash :
    ¬Survives (DockerJournal.load (hexDigits 'a'))
      (DockerJournal.listUnfinishedIdentities fun _ => dockerStamp)
      (DockerJournal.Op.create dockerJournal).program 4 Files.empty ∧
    ¬Survives (PodmanJournal.load (hexDigits 'a'))
      (PodmanJournal.listUnfinished fun _ => podmanStamp)
      ((PodmanJournal.Op.create podmanJournal).program fun _ => podmanStamp) 4 Files.empty :=
  ⟨not_survives (DockerJournal.create_linkCrash dockerJournal_creatable),
    not_survives (PodmanJournal.create_linkCrash podmanJournal_check rfl)⟩

end NemoClaw.ManagedBootstrap
