import NemoClaw.Js.Text
import NemoClaw.Lib.TarMembers

/- Which files of a backup the restore of an OpenClaw sandbox sends.

Extensions that the image brings along are kept as the fresh image has them, so the archive
leaves them out: every one gets an exclude pattern `extensions/<name>`. GNU tar also tries
a pattern behind the slashes of a name. So what the user has at such a path deeper in a
directory is left out too, and it is gone from the sandbox after the restore.

Correspondence (src/lib/state/openclaw-managed-extensions.ts and openclaw-plugin-restore.ts
↔ Lean): the functions keep their names. A listed directory is a path that
`isSafeStateDirPath` of sandbox.ts accepts, that is, a normal relative one, which may end in
a slash; links in it are not followed.
-/
namespace NemoClaw.RestoreArchive

open FileTree List

def openclawExtensionGlobChars : List Char := ['/', '\\', '*', '?', '[', ']']

/-- `[\u0000-\u001f\u007f]`. -/
def isControlCharacter (c : Char) : Bool := c.toNat ≤ 0x1f || c.toNat = 0x7f

def isSafeOpenClawExtensionDirName (name : String) : Bool :=
  0 < Js.jsLength name && Js.jsLength name ≤ 128 && name ≠ "." && name ≠ ".." &&
    !name.toList.any isControlCharacter && !openclawExtensionGlobChars.any (· ∈ name.toList)

/-- The name of an extension; `extensionDirForInstall` lets no other pass. -/
structure ExtensionName where
  text : String
  safe : isSafeOpenClawExtensionDirName text

/-- A directory to restore. -/
structure StateDir where
  names : List Name
  nonempty : names ≠ []
  slash : Bool := false

def StateDir.path (dir : StateDir) : Path := dir.names.map (·.text)

def StateDir.text (dir : StateDir) : String :=
  "/".intercalate dir.path ++ if dir.slash then "/" else ""

def buildRestoreTarArgs (backupPath : String) (localDirs managedExtensionDirs : List String) :
    List String :=
  ["-cf", "-", "-C", backupPath] ++
    managedExtensionDirs.flatMap (fun extensionName =>
      ["--exclude", "extensions/" ++ extensionName]) ++
    "--" :: localDirs

def openclawImageManagedExtensionDirs : List ExtensionName :=
  [⟨"nemoclaw", by decide +kernel⟩, ⟨"diagnostics-otel", by decide +kernel⟩, ⟨"brave", by decide +kernel⟩,
    ⟨"discord", by decide +kernel⟩, ⟨"openclaw-weixin", by decide +kernel⟩, ⟨"slack", by decide +kernel⟩,
    ⟨"whatsapp", by decide +kernel⟩, ⟨"msteams", by decide +kernel⟩, ⟨"googlechat", by decide +kernel⟩]

/-! ## What tar selects -/

/-- The members that tar selects for the arguments; the backup has the tree. -/
def selected (glob : List Char → List Char → Bool) (args : List String) (tree : Node) : List Path :=
  match Tar.Command.read args with
  | none => []
  | some command => command.members glob tree

def Listed (tree : Node) (localDirs : List StateDir) (path : Path) : Prop :=
  ∃ dir ∈ localDirs, ∃ node, tree.get dir.path = some node ∧ path ∈ Tar.listing dir.path node

def ExtensionName.path (name : ExtensionName) : Path := ["extensions", name.text]

def Managed (managed : List ExtensionName) (path : Path) : Prop :=
  ∃ name ∈ managed, name.path <+: path

def Mentions (managed : List ExtensionName) (path : Path) : Prop :=
  ∃ name ∈ managed, name.path <:+: path

lemma readExcludes_args (managed localDirs : List String) :
    Tar.readExcludes (managed.flatMap (fun extensionName =>
      ["--exclude", "extensions/" ++ extensionName]) ++ "--" :: localDirs) =
        some (managed.map ("extensions/" ++ ·), localDirs) := by
  induction managed with
  | nil => rfl
  | cons name managed ih =>
    rw [flatMap_cons, map_cons]
    simp only [cons_append, nil_append, Tar.readExcludes, ih, Option.map_some]

lemma read_buildRestoreTarArgs (backupPath : String) (localDirs managed : List String) :
    Tar.Command.read (buildRestoreTarArgs backupPath localDirs managed) =
      some ⟨backupPath, managed.map ("extensions/" ++ ·), localDirs⟩ := by
  have hread := readExcludes_args managed localDirs
  simp only [buildRestoreTarArgs, cons_append, nil_append, Tar.Command.read, hread,
    Option.map_some]

section Names

variable (name : ExtensionName) (dir : StateDir)

lemma ExtensionName.ne_empty : name.text ≠ "" := by
  intro h
  have hsafe := name.safe
  rw [h] at hsafe; exact absurd hsafe (by decide +kernel)

lemma ExtensionName.notMem {c : Char} (hc : c ∈ openclawExtensionGlobChars) :
    c ∉ name.text.toList := by
  have hsafe := name.safe
  unfold isSafeOpenClawExtensionDirName at hsafe
  rw [Bool.and_eq_true, Bool.not_eq_true'] at hsafe
  intro hmem
  have hany : openclawExtensionGlobChars.any (· ∈ name.text.toList) :=
    any_eq_true.mpr ⟨c, hc, decide_eq_true hmem⟩
  rw [hsafe.2] at hany; exact Bool.false_ne_true hany

lemma ExtensionName.plain : Tar.Plain name.path := by
  intro part hpart
  rcases mem_cons.mp hpart with rfl | hpart
  · decide
  · rw [mem_singleton.mp hpart]; exact ⟨name.ne_empty, name.notMem (by decide)⟩

lemma ExtensionName.text_path :
    Tar.text name.path = ("extensions/" ++ name.text).toList := by
  simp [Tar.text, ExtensionName.path, List.intercalate]

lemma ExtensionName.not_special : (Tar.text name.path).any Tar.isSpecial = false := by
  rw [name.text_path, String.toList_append, any_append, Bool.or_eq_false_iff]
  refine ⟨by decide, any_eq_false.mpr fun c hc hspecial => ?_⟩
  have hglob : c ∈ openclawExtensionGlobChars := by
    have hcases : c = '?' ∨ c = '*' ∨ c = '[' ∨ c = '\\' := by
      simpa [Tar.isSpecial] using hspecial
    rcases hcases with rfl | rfl | rfl | rfl <;> decide
  exact name.notMem hglob hc

lemma StateDir.plain : Tar.Plain dir.path := by
  intro part hpart
  obtain ⟨part, -, rfl⟩ := mem_map.mp hpart
  exact ⟨part.plain.1, part.plain.2.2.2⟩

lemma StateDir.path_ne_nil : dir.path ≠ [] := by
  simpa [StateDir.path] using dir.nonempty

lemma StateDir.operandPath_text : Tar.operandPath dir.text = dir.path := by
  obtain ⟨hsame, hslash⟩ := Tar.withoutSlashes_text dir.plain dir.path_ne_nil
  have htext : ("/".intercalate dir.path).toList = Tar.text dir.path := String.toList_intercalate
  have hoperand : Tar.withoutSlashes dir.text.toList = Tar.text dir.path := by
    unfold StateDir.text
    rw [String.toList_append, htext]
    cases dir.slash with
    | false => simpa using hsame
    | true => simpa using hslash
  rw [Tar.operandPath, hoperand]; exact Tar.parts_text dir.plain dir.path_ne_nil

end Names

section Selected

variable {managed : List ExtensionName}

lemma excludedName_iff_mentions (glob : List Char → List Char → Bool) {path : Path}
    (hplain : Tar.Plain path) (hne : path ≠ []) :
    Tar.excludedName glob (((managed.map (·.text)).map ("extensions/" ++ ·)).map String.toList)
      (Tar.text path) ↔ Mentions managed path := by
  have hpatterns : ((managed.map (·.text)).map ("extensions/" ++ ·)).map String.toList =
      (managed.map ExtensionName.path).map Tar.text := by
    simp only [map_map]; exact map_congr_left fun name _ => name.text_path.symm
  rw [hpatterns, Tar.excludedName_iff ?_ hplain hne]
  · simp [Mentions]
  · intro ps hps
    obtain ⟨name, -, rfl⟩ := mem_map.mp hps
    exact ⟨name.plain, cons_ne_nil _ _, name.not_special⟩

lemma mem_selected_iff (glob : List Char → List Char → Bool) (backupPath : String)
    (localDirs : List StateDir) (managed : List ExtensionName) (tree : Node) (path : Path) :
    path ∈ selected glob (buildRestoreTarArgs backupPath (localDirs.map (·.text))
        (managed.map (·.text))) tree ↔
      Listed tree localDirs path ∧ ¬ Mentions managed path := by
  unfold selected Tar.Command.members
  rw [read_buildRestoreTarArgs]
  let excluded : Path → Bool := fun path => Tar.excludedName glob
    (((managed.map (·.text)).map ("extensions/" ++ ·)).map String.toList) (Tar.text path)
  have hdown : Tar.Downward excluded := by
    intro path p hp hne hbelow hexcluded
    have hpath : Tar.Plain path := fun name hname => hp name (hbelow.subset hname)
    have hp' : p ≠ [] := fun h => hne (prefix_nil.mp (h ▸ hbelow))
    obtain ⟨name, hname, hin⟩ := (excludedName_iff_mentions glob hpath hne).mp hexcluded
    exact (excludedName_iff_mentions glob hp hp').mpr ⟨name, hname, hin.trans hbelow.isInfix⟩
  have hmem : ∀ dir : StateDir, ∀ node, path ∈ Tar.members excluded dir.path node ↔
      path ∈ Tar.listing dir.path node ∧ ¬ Mentions managed path := by
    intro dir node
    rw [Tar.mem_members hdown dir.plain dir.path_ne_nil]
    refine and_congr_right fun hlisted => ?_
    obtain ⟨names, rfl⟩ := Tar.exists_of_mem_listing node hlisted
    have hplain := Tar.plain_append dir.plain names
    have hne : dir.path ++ names.map (·.text) ≠ [] := by simp [dir.path_ne_nil]
    rw [← excludedName_iff_mentions glob hplain hne, Bool.not_eq_true]
  simp only [mem_flatMap, mem_map, exists_exists_and_eq_and, StateDir.operandPath_text]
  constructor
  · rintro ⟨dir, hdir, h⟩
    cases hget : tree.get dir.path with
    | none => simp [hget] at h
    | some node =>
      rw [hget] at h
      obtain ⟨hlisted, hkept⟩ := (hmem dir node).mp h
      exact ⟨⟨dir, hdir, node, hget, hlisted⟩, hkept⟩
  · rintro ⟨⟨dir, hdir, node, hget, hlisted⟩, hkept⟩
    refine ⟨dir, hdir, ?_⟩
    rw [hget]; exact (hmem dir node).mpr ⟨hlisted, hkept⟩

end Selected

/-- The archive omits managed extensions only, unless the path of one stands deeper in a
listed file's path. -/
theorem buildRestoreTarArgs_omits_iff (glob : List Char → List Char → Bool) (backupPath : String)
    (localDirs : List StateDir) (managed : List ExtensionName) (tree : Node) :
    (∀ path, path ∈ selected glob (buildRestoreTarArgs backupPath (localDirs.map (·.text))
        (managed.map (·.text))) tree ↔ Listed tree localDirs path ∧ ¬ Managed managed path) ↔
      ∀ path, Listed tree localDirs path → Mentions managed path → Managed managed path := by
  simp only [mem_selected_iff]
  constructor
  · intro h path hlisted hmentions
    by_contra hmanaged; exact ((h path).mpr ⟨hlisted, hmanaged⟩).2 hmentions
  · intro h path
    refine and_congr_right fun hlisted => not_congr ⟨h path hlisted, ?_⟩
    rintro ⟨name, hname, hbelow⟩; exact ⟨name, hname, hbelow.isInfix⟩

/-- A note in a workspace, in a directory of the name of an extension. -/
def workspaceBackup : Node := .dir ⟨true, true⟩
  (.cons ⟨"workspace", by decide +kernel⟩ (.dir ⟨true, true⟩
    (.cons ⟨"extensions", by decide +kernel⟩ (.dir ⟨true, true⟩
      (.cons ⟨"slack", by decide +kernel⟩ (.dir ⟨true, true⟩
        (.cons ⟨"notes.md", by decide +kernel⟩ .file .nil)) .nil)) .nil)) .nil)

def workspaceDir : StateDir := ⟨[⟨"workspace", by decide +kernel⟩], by decide, false⟩

/-- The note is listed and no part of a managed extension, and the archive does not have it. -/
theorem buildRestoreTarArgs_omits_note :
    Listed workspaceBackup [workspaceDir] ["workspace", "extensions", "slack", "notes.md"] ∧
    ¬ Managed openclawImageManagedExtensionDirs
      ["workspace", "extensions", "slack", "notes.md"] ∧
    ["workspace", "extensions", "slack", "notes.md"] ∉
      selected (fun _ _ => false) (buildRestoreTarArgs "/tmp/backup"
        ([workspaceDir].map (·.text)) (openclawImageManagedExtensionDirs.map (·.text)))
        workspaceBackup := by
  refine ⟨⟨workspaceDir, mem_singleton_self _, _, rfl, by decide +kernel⟩, ?_, ?_⟩
  · rintro ⟨name, -, hbelow⟩; exact absurd (cons_prefix_cons.mp hbelow).1 (by decide)
  · decide +kernel

end NemoClaw.RestoreArchive
