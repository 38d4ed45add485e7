import NemoClaw.Js.Text
import NemoClaw.Onboard.GatewayBinding

/- The snapshots of a sandbox, and how one is selected.

Correspondence (src/lib/state/sandbox.ts ↔ Lean): `validateSnapshotName`, `listBackups`,
`findBackup` and `removeSandboxStateBackup` keep their names; `backupSandboxState` is a
backup that succeeds, from the check of the name on. A manifest is its timestamp, its name
and the fields that no selector reads. The directory of the sandbox is the list of its
subdirectories in the order in which they were made; `readdirSync` may list them in any.

What is proved: `selectors_unambiguous`, that in every history of backups that are later
than the snapshots there are, with no name that is the timestamp of another snapshot, every
snapshot is found by its version, its name and its timestamp, and the versions count the
snapshots in the order in which they were made. A timestamp may be given as a name, and
then it selects the snapshot with that name.
-/
namespace NemoClaw.SnapshotSelectors

open Js List

variable {ρ : Type}

/-- `VERSION_SELECTOR_RE`, `/^v(\d+)$/i`: the version. -/
def versionSelector (selector : String) : Option ℕ :=
  match selector.toList with
  | [] => none
  | c :: digits =>
    if (c = 'v' ∨ c = 'V') ∧ digits ≠ [] ∧ digits.all isDigit then some (natOfDigits digits)
    else none

def isNameTail (c : Char) : Bool := isAlphanumeric c || c == '.' || c == '_' || c == '-'

def validateSnapshotName (name : String) : Option String :=
  if isNameOf isAlphanumeric isNameTail 62 name = false then
    some ("Invalid snapshot name '" ++ name ++ "'. Use 1–63 chars from [A-Za-z0-9._-], " ++
      "starting with an alphanumeric.")
  else if (versionSelector name).isSome then
    some ("Snapshot name '" ++ name ++ "' conflicts with the auto-assigned version format " ++
      "(v<N>). Pick a different name.")
  else none

structure RebuildManifest (ρ : Type) where
  timestamp : String
  name : Option String
  /-- the fields that no selector reads -/
  rest : ρ

structure SnapshotEntry (ρ : Type) extends RebuildManifest ρ where
  snapshotVersion : ℕ

/-- The subdirectories with their manifests. -/
abbrev Directory (ρ : Type) := List (String × RebuildManifest ρ)

section Selectors

variable (localeLe : String → String → Bool)

/-- The manifests by their timestamps, oldest first. -/
def ascending (listing : Directory ρ) : List (RebuildManifest ρ) :=
  (listing.map (·.2)).insertionSort fun a b => localeLe a.timestamp b.timestamp

def numbered (manifests : List (RebuildManifest ρ)) : List (SnapshotEntry ρ) :=
  (manifests.zipIdx 1).map fun (m, version) => ⟨m, version⟩

def listBackups (listing : Directory ρ) : List (SnapshotEntry ρ) :=
  (numbered (ascending localeLe listing)).reverse

def findBackup (listing : Directory ρ) (selector : String) : Option (SnapshotEntry ρ) :=
  let backups := listBackups localeLe listing
  match versionSelector selector with
  | some wanted => backups.find? fun b => b.snapshotVersion = wanted
  | none =>
    match backups.find? fun b => b.name = some selector with
    | some byName => some byName
    | none => backups.find? fun b => b.timestamp = selector

/-- `toISOString().replace(/[:.]/g, "-")` -/
def timestampOf (now : IsoTimestamp) : String :=
  String.ofList (now.val.toList.map fun c => if c = ':' ∨ c = '.' then '-' else c)

def backupSandboxState (sandboxName backups : String) (listing : Directory ρ) (now : IsoTimestamp)
    (name : Option String) (rest : ρ) : Except String (String × RebuildManifest ρ) :=
  let conflict := name.bind fun providedName =>
    match validateSnapshotName providedName with
    | some validationError => some validationError
    | none => ((listBackups localeLe listing).find? fun b => b.name = some providedName).map
      fun conflict => "Snapshot name '" ++ providedName ++ "' already exists for '" ++
        sandboxName ++ "' (at " ++ conflict.timestamp ++
        "). Pick a different name or delete the existing snapshot."
  match conflict with
  | some error => .error error
  | none =>
    let timestamp := timestampOf now
    if (listing.map (·.1)).contains timestamp then
      .error ("Snapshot path '" ++ backups ++ "/" ++ sandboxName ++ "/" ++ timestamp ++
        "' already exists; retry the backup.")
    else .ok (timestamp, ⟨timestamp, name, rest⟩)

def removeSandboxStateBackup (directory : Directory ρ) (subdirectory : String) : Directory ρ :=
  directory.filter fun entry => entry.1 ≠ subdirectory

end Selectors

/-! ## Histories -/

inductive SnapshotOp (ρ : Type) where
  | backup (listing : Directory ρ) (now : IsoTimestamp) (name : Option String) (rest : ρ)
  | remove (subdirectory : String)

/-- Where the snapshots are, and how timestamps are compared. -/
structure Host where
  localeLe : String → String → Bool
  backups : String
  sandboxName : String

variable {host : Host}

inductive SnapshotOp.Makes (host : Host) : SnapshotOp ρ → Directory ρ → Directory ρ → Prop where
  | backup {listing directory : Directory ρ} {now : IsoTimestamp} {name : Option String} {rest : ρ}
    {made : String × RebuildManifest ρ} (listed : listing.Perm directory)
    (succeeds : backupSandboxState host.localeLe host.sandboxName host.backups listing now name
      rest = .ok made) : Makes host (.backup listing now name rest) directory (directory ++ [made])
  | remove (directory : Directory ρ) (subdirectory : String) :
    Makes host (.remove subdirectory) directory (removeSandboxStateBackup directory subdirectory)

/-- A history of calls that succeed, one at a time, each within `Meets`. -/
inductive History (host : Host) (Meets : SnapshotOp ρ → Directory ρ → Prop) :
    Directory ρ → Prop where
  | start : History host Meets []
  | call {op : SnapshotOp ρ} {directory next : Directory ρ} (before : History host Meets directory)
    (meets : Meets op directory) (makes : op.Makes host directory next) : History host Meets next

/-- Each snapshot is selected by its version, name and timestamp, and the versions count in the
order of creation. -/
structure Unambiguous (host : Host) (directory listing : Directory ρ) : Prop where
  versions : listBackups host.localeLe listing = (numbered (directory.map (·.2))).reverse
  version : ∀ s ∈ listBackups host.localeLe listing,
    findBackup host.localeLe listing ("v" ++ Nat.repr s.snapshotVersion) = some s
  name : ∀ s ∈ listBackups host.localeLe listing, ∀ name, s.name = some name →
    findBackup host.localeLe listing name = some s
  timestamp : ∀ s ∈ listBackups host.localeLe listing,
    findBackup host.localeLe listing s.timestamp = some s

/-- `a` is another snapshot than `b` by each selector, and the older one. -/
structure Before (host : Host) (a b : RebuildManifest ρ) : Prop where
  le : host.localeLe a.timestamp b.timestamp
  not_le : host.localeLe b.timestamp a.timestamp = false
  names : ∀ name, a.name = some name → b.name ≠ some name
  name_left : a.name ≠ some b.timestamp
  name_right : b.name ≠ some a.timestamp

lemma Before.timestamp_ne {a b : RebuildManifest ρ} (h : Before host a b) :
    a.timestamp ≠ b.timestamp := by
  intro heq
  have hle := h.le
  have hnot := h.not_le
  rw [heq] at hle hnot
  rw [hle] at hnot; cases hnot

def Distinct (host : Host) : SnapshotOp ρ → Directory ρ → Prop
  | .backup _ now name _, directory => ∀ entry ∈ directory,
    (host.localeLe entry.2.timestamp (timestampOf now) ∧
      host.localeLe (timestampOf now) entry.2.timestamp = false) ∧
    name ≠ some entry.2.timestamp ∧ entry.2.name ≠ some (timestampOf now)
  | .remove _, _ => True

structure Selectable (m : RebuildManifest ρ) : Prop where
  name : ∀ name, m.name = some name → versionSelector name = none
  timestamp : versionSelector m.timestamp = none

structure Inv (host : Host) (directory : Directory ρ) : Prop where
  before : (directory.map (·.2)).Pairwise (Before host)
  selectable : ∀ m ∈ directory.map (·.2), Selectable m

lemma versionSelector_timestampOf (now : IsoTimestamp) :
    versionSelector (timestampOf now) = none := by
  obtain ⟨text, hiso⟩ := now
  unfold versionSelector timestampOf
  rw [String.toList_ofList]
  unfold isCanonicalIsoTimestamp at hiso
  cases hcs : text.toList with
  | nil => rfl
  | cons c cs =>
    rw [hcs] at hiso
    have hv : c ≠ 'v' := by
      rintro rfl
      simp [isDigit] at hiso
    have hV : c ≠ 'V' := by
      rintro rfl
      simp [isDigit] at hiso
    refine if_neg fun h => ?_
    have hc : (if c = ':' ∨ c = '.' then '-' else c) = 'v' ∨
        (if c = ':' ∨ c = '.' then '-' else c) = 'V' := h.1
    split at hc
    · revert hc; decide
    · exact hc.elim hv hV

lemma versionSelector_version (n : ℕ) : versionSelector ("v" ++ Nat.repr n) = some n := by
  have htext : ("v" ++ Nat.repr n).toList = 'v' :: (Nat.repr n).toList := String.toList_append
  unfold versionSelector
  rw [htext]
  refine (if_pos ⟨.inl rfl, ?_, GatewayBinding.isDigit_repr n⟩).trans
    (congrArg some (GatewayBinding.natOfDigits_repr n))
  rw [Nat.toList_repr]; exact Nat.toDigits_ne_nil

lemma mem_numbered {manifests : List (RebuildManifest ρ)} {s : SnapshotEntry ρ} :
    s ∈ numbered manifests ↔
      0 < s.snapshotVersion ∧ manifests[s.snapshotVersion - 1]? = some s.toRebuildManifest := by
  unfold numbered
  rw [mem_map]
  constructor
  · rintro ⟨⟨m, version⟩, hmem, rfl⟩
    exact mem_zipIdx_iff_le_and_getElem?_sub.mp hmem
  · intro h
    exact ⟨(s.toRebuildManifest, s.snapshotVersion),
      mem_zipIdx_iff_le_and_getElem?_sub.mpr h, rfl⟩

lemma exists_version {localeLe : String → String → Bool} {listing : Directory ρ}
    {entry : String × RebuildManifest ρ} (h : entry ∈ listing) :
    ∃ version, (⟨entry.2, version⟩ : SnapshotEntry ρ) ∈ listBackups localeLe listing := by
  have hmem : entry.2 ∈ ascending localeLe listing :=
    (mem_insertionSort _).mpr (mem_map_of_mem h)
  obtain ⟨i, hi⟩ := mem_iff_getElem?.mp hmem
  exact ⟨i + 1, mem_reverse.mpr (mem_numbered.mpr ⟨Nat.succ_pos i, hi⟩)⟩

lemma backupSandboxState_ok {localeLe : String → String → Bool} {sandboxName backups : String}
    {listing : Directory ρ} {now : IsoTimestamp} {name : Option String} {rest : ρ}
    {made : String × RebuildManifest ρ}
    (h : backupSandboxState localeLe sandboxName backups listing now name rest = .ok made) :
    made = (timestampOf now, ⟨timestampOf now, name, rest⟩) ∧
    ∀ providedName, name = some providedName → versionSelector providedName = none ∧
      ∀ entry ∈ listing, entry.2.name ≠ some providedName := by
  unfold backupSandboxState at h
  dsimp only at h
  split at h
  · cases h
  next hconflict =>
  split at h
  · cases h
  refine ⟨(Except.ok.inj h).symm, ?_⟩
  rintro providedName rfl
  rw [Option.bind_some] at hconflict
  split at hconflict
  · cases hconflict
  next hvalid =>
  have hfree := List.find?_eq_none.mp (Option.map_eq_none_iff.mp hconflict)
  constructor
  · unfold validateSnapshotName at hvalid
    split at hvalid
    · cases hvalid
    split at hvalid
    · cases hvalid
    next hversion => simpa using hversion
  · intro entry hentry hname
    obtain ⟨version, hmem⟩ := exists_version hentry
    exact hfree _ hmem (by simpa using hname)

lemma SnapshotOp.Makes.inv {op : SnapshotOp ρ} {directory next : Directory ρ}
    (h : op.Makes host directory next) (hinv : Inv host directory) (hop : Distinct host op directory) :
    Inv host next := by
  cases h with
  | @backup listing _ now name rest made listed succeeds =>
    obtain ⟨rfl, hname⟩ := backupSandboxState_ok succeeds
    constructor
    · rw [map_append, pairwise_append]
      refine ⟨hinv.before, pairwise_singleton _ _, fun m hm m' hm' => ?_⟩
      obtain rfl := mem_singleton.mp hm'
      obtain ⟨entry, hentry, rfl⟩ := mem_map.mp hm
      obtain ⟨⟨hle, hnot⟩, hstamp, hstamp'⟩ := hop entry hentry
      exact ⟨hle, hnot, fun n hn heq => (hname n heq).2 entry (listed.mem_iff.mpr hentry) hn,
        hstamp', hstamp⟩
    · intro m hm
      rw [map_append] at hm
      rcases mem_append.mp hm with hold | hnew
      · exact hinv.selectable m hold
      · obtain rfl := mem_singleton.mp hnew
        exact ⟨fun n hn => (hname n hn).1, versionSelector_timestampOf now⟩
  | remove _ subdirectory =>
    have hsub := (filter_sublist (l := directory)
      (p := fun entry => decide (entry.1 ≠ subdirectory))).map (·.2)
    exact ⟨hinv.before.sublist hsub, fun m hm => hinv.selectable m (hsub.subset hm)⟩

lemma History.inv {directory : Directory ρ} (h : History host (Distinct host) directory) :
    Inv host directory := by
  induction h with
  | start => exact ⟨.nil, nofun⟩
  | call _ meets makes ih => exact makes.inv ih meets

lemma find?_eq_of_unique {α : Type} {p : α → Bool} {xs : List α} {x : α} (hx : x ∈ xs)
    (hp : p x) (hunique : ∀ y ∈ xs, p y → y = x) : xs.find? p = some x := by
  cases hfind : xs.find? p with
  | none => exact absurd hp (by simpa using List.find?_eq_none.mp hfind x hx)
  | some y => rw [hunique y (mem_of_find?_eq_some hfind) (List.find?_some hfind)]

/-- Two entries are one, or stand for two snapshots. -/
lemma numbered_cases {manifests : List (RebuildManifest ρ)}
    (h : manifests.Pairwise (Before host)) {s t : SnapshotEntry ρ} (hs : s ∈ numbered manifests)
    (ht : t ∈ numbered manifests) : s = t ∨ s.snapshotVersion ≠ t.snapshotVersion ∧
      (Before host s.toRebuildManifest t.toRebuildManifest ∨
        Before host t.toRebuildManifest s.toRebuildManifest) := by
  obtain ⟨hspos, hs⟩ := mem_numbered.mp hs
  obtain ⟨htpos, ht⟩ := mem_numbered.mp ht
  obtain ⟨hsl, hs⟩ := List.getElem?_eq_some_iff.mp hs
  obtain ⟨htl, ht⟩ := List.getElem?_eq_some_iff.mp ht
  have hpairs := pairwise_iff_getElem.mp h
  rcases Nat.lt_trichotomy s.snapshotVersion t.snapshotVersion with hlt | heq | hlt
  · exact .inr ⟨hlt.ne, .inl (hs ▸ ht ▸ hpairs _ _ hsl htl (by omega))⟩
  · refine .inl ?_
    obtain ⟨s, version⟩ := s
    obtain ⟨t, version'⟩ := t
    obtain rfl : version = version' := heq
    obtain rfl : s = t := hs.symm.trans ht
    rfl
  · exact .inr ⟨hlt.ne', .inr (hs ▸ ht ▸ hpairs _ _ htl hsl (by omega))⟩

section Sorted

variable (htotal : ∀ s t, host.localeLe s t ∨ host.localeLe t s)
  (htrans : ∀ s t u, host.localeLe s t → host.localeLe t u →
    host.localeLe s u)
include htotal htrans

/-- In whatever order the subdirectories are listed, the snapshots come in the order in which
they were made. -/
lemma ascending_eq {directory listing : Directory ρ} (hinv : Inv host directory)
    (hlisting : listing.Perm directory) :
    ascending host.localeLe listing = directory.map (·.2) := by
  have htotal' : Std.Total fun a b : RebuildManifest ρ =>
      host.localeLe a.timestamp b.timestamp := ⟨fun a b => htotal _ _⟩
  have htrans' : IsTrans (RebuildManifest ρ) fun a b =>
      host.localeLe a.timestamp b.timestamp := ⟨fun a b c => htrans _ _ _⟩
  have hperm := (perm_insertionSort
    (fun a b : RebuildManifest ρ => host.localeLe a.timestamp b.timestamp)
    (listing.map (·.2))).trans (hlisting.map (·.2))
  refine Perm.eq_of_pairwise ?_ (pairwise_insertionSort _ _)
    (hinv.before.imp fun h => h.le) hperm
  have hsymm : Std.Symm fun a b : RebuildManifest ρ => Before host a b ∨ Before host b a :=
    ⟨fun _ _ => Or.symm⟩
  have heither : (directory.map (·.2)).Pairwise fun a b => Before host a b ∨ Before host b a :=
    hinv.before.imp Or.inl
  intro a b ha hb hab hba
  by_contra hne
  rcases heither.forall (hperm.mem_iff.mp ha) hb hne with h | h
  · rw [h.not_le] at hba; cases hba
  · rw [h.not_le] at hab; cases hab

lemma Inv.unambiguous {directory listing : Directory ρ} (hinv : Inv host directory)
    (hlisting : listing.Perm directory) : Unambiguous host directory listing := by
  have hversions : listBackups host.localeLe listing =
      (numbered (directory.map (·.2))).reverse := by
    unfold listBackups
    rw [ascending_eq htotal htrans hinv hlisting]
  have hmem : ∀ s ∈ listBackups host.localeLe listing, s ∈ numbered (directory.map (·.2)) := by
    intro s hs
    rw [hversions] at hs; exact mem_reverse.mp hs
  have hselectable : ∀ s ∈ listBackups host.localeLe listing, Selectable s.toRebuildManifest :=
    fun s hs => hinv.selectable _ (mem_of_getElem? (mem_numbered.mp (hmem s hs)).2)
  have hselect : ∀ s ∈ listBackups host.localeLe listing, ∀ p : SnapshotEntry ρ → Bool,
      p s → (∀ t, s.snapshotVersion ≠ t.snapshotVersion →
        (Before host s.toRebuildManifest t.toRebuildManifest ∨
          Before host t.toRebuildManifest s.toRebuildManifest) → p t = false) →
      (listBackups host.localeLe listing).find? p = some s := by
    intro s hs p hp hother
    refine find?_eq_of_unique hs hp fun t ht hpt => ?_
    rcases numbered_cases hinv.before (hmem s hs) (hmem t ht) with heq | ⟨hne, hbefore⟩
    · exact heq.symm
    · rw [hother t hne hbefore] at hpt; cases hpt
  refine ⟨hversions, fun s hs => ?_, fun s hs name hname => ?_, fun s hs => ?_⟩
  · unfold findBackup
    rw [versionSelector_version]
    exact hselect s hs _ (decide_eq_true rfl) fun t hne _ => decide_eq_false hne.symm
  · have hfind := hselect s hs (fun b => b.name = some name) (decide_eq_true hname)
      fun t _ h => decide_eq_false fun htname =>
        h.elim (fun h => h.names name hname htname) fun h => h.names name htname hname
    unfold findBackup
    rw [(hselectable s hs).name name hname]
    simp only [hfind]
  · have hfind := hselect s hs (fun b => b.timestamp = s.timestamp) (decide_eq_true rfl)
      fun t _ h => decide_eq_false fun heq =>
        h.elim (fun h => h.timestamp_ne heq.symm) fun h => h.timestamp_ne heq
    unfold findBackup
    rw [(hselectable s hs).timestamp]
    cases hname : (listBackups host.localeLe listing).find?
        fun b => b.name = some s.timestamp with
    | none => simp only [hname, hfind]
    | some t =>
      simp only [hname]
      have htname : t.name = some s.timestamp := by simpa using List.find?_some hname
      have ht := mem_of_find?_eq_some hname
      rcases numbered_cases hinv.before (hmem s hs) (hmem t ht) with heq | ⟨_, h | h⟩
      · rw [heq]
      · exact absurd htname h.name_right
      · exact absurd htname h.name_left

theorem selectors_unambiguous {directory listing : Directory ρ}
    (h : History host (Distinct host) directory) (hlisting : listing.Perm directory) :
    Unambiguous host directory listing :=
  h.inv.unambiguous htotal htrans hlisting

end Sorted

def plainHost : Host where
  localeLe := fun s t => decide (compareLe s t)
  backups := "/home/user/.nemoclaw/rebuild-backups"
  sandboxName := "my-assistant"

def noon : IsoTimestamp := ⟨"2026-01-01T12:00:00.000Z", by decide⟩

def evening : IsoTimestamp := ⟨"2026-01-01T18:00:00.000Z", by decide⟩

def noonSnapshot : String × RebuildManifest Unit :=
  ("2026-01-01T12-00-00-000Z", ⟨"2026-01-01T12-00-00-000Z", none, ()⟩)

def eveningSnapshot (name : String) : String × RebuildManifest Unit :=
  ("2026-01-01T18-00-00-000Z", ⟨"2026-01-01T18-00-00-000Z", some name, ()⟩)

lemma History.backup {Meets : SnapshotOp Unit → Directory Unit → Prop} {directory : Directory Unit}
    (before : History host Meets directory) (now : IsoTimestamp) (name : Option String)
    (meets : Meets (.backup directory now name ()) directory) {made : String × RebuildManifest Unit}
    (succeeds : backupSandboxState host.localeLe host.sandboxName host.backups directory now name
      () = .ok made) : History host Meets (directory ++ [made]) :=
  .call before meets (.backup (.refl _) succeeds)

lemma namedByTimestamp_history :
    History plainHost (fun _ _ => True) [noonSnapshot, eveningSnapshot "2026-01-01T12-00-00-000Z"] :=
  (History.start.backup noon none trivial (by rfl)).backup evening
    (some "2026-01-01T12-00-00-000Z") trivial (by rfl)

theorem findBackup_namedByTimestamp :
    ¬ ∀ directory : Directory Unit, History plainHost (fun _ _ => True) directory →
      ∀ listing : Directory Unit, listing.Perm directory →
        Unambiguous plainHost directory listing := by
  intro h
  have hlist : listBackups plainHost.localeLe
      [noonSnapshot, eveningSnapshot "2026-01-01T12-00-00-000Z"] =
      [⟨(eveningSnapshot "2026-01-01T12-00-00-000Z").2, 2⟩, ⟨noonSnapshot.2, 1⟩] := by rfl
  have hnoon := (h _ namedByTimestamp_history _ (.refl _)).timestamp ⟨noonSnapshot.2, 1⟩
    (by rw [hlist]; exact mem_cons_of_mem _ mem_cons_self)
  have hnamed : (findBackup plainHost.localeLe
      [noonSnapshot, eveningSnapshot "2026-01-01T12-00-00-000Z"] noonSnapshot.2.timestamp).map
      (·.snapshotVersion) = some 2 := by rfl
  rw [hnoon] at hnamed
  exact absurd (Option.some.inj hnamed) (by decide)

theorem selectors_unambiguous_named :
    Unambiguous plainHost [noonSnapshot, eveningSnapshot "before-upgrade"]
      [eveningSnapshot "before-upgrade", noonSnapshot] := by
  refine selectors_unambiguous (fun s t => ?_) (fun s t u hst htu => ?_)
    ((History.start.backup noon none nofun (by rfl)).backup evening (some "before-upgrade") ?_
      (by rfl)) (.swap _ _ _)
  · exact (Std.Total.total s t).imp decide_eq_true decide_eq_true
  · exact decide_eq_true (le_trans (of_decide_eq_true hst) (of_decide_eq_true htu))
  · intro entry hentry
    obtain rfl := mem_singleton.mp hentry
    decide

end NemoClaw.SnapshotSelectors
