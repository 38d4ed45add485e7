import NemoClaw.Js.StringifyJson
import NemoClaw.Lib.FileTree
import NemoClaw.Registry.RebuildAuthority

/- The hash that binds a restore to a snapshot.

The tree is walked from its root, the entries of a directory by their names. Of every entry
a JSON array is hashed, with its kind and its path, of a file with its size, and then the
bytes of the file; nothing stands between them.

Correspondence (src/lib/state/sandbox.ts ↔ Lean): `hashSnapshotTree` keeps its name, and
`visit` is its inner function: the entries in the order in which they are hashed. A path is
the list of its names; as names are plain, `path.posix.join` puts slashes between them. The
hash is a parameter, and how a size is written is `numberText`.

What is proved: `hashSnapshotTree_eq_iff`, that two trees have one hash exactly if the same
stands at every path: a directory, a file with the same bytes or a link with the same target.
-/
namespace NemoClaw.SnapshotHash

open Js FileTree List

inductive Item where
  | directory (entries : List (Name × Item))
  | symlink (target : String)
  | file (contents : List UInt8)

inductive Kind where
  | directory
  | symlink (target : String)
  | file (contents : List UInt8)

namespace Item

def kind : Item → Kind
  | directory _ => .directory
  | symlink target => .symlink target
  | file contents => .file contents

def get : Item → Path → Option Kind
  | item, [] => some item.kind
  | directory entries, name :: names =>
    (entries.find? fun entry => entry.1.text = name).bind fun entry => entry.2.get names
  | _, _ :: _ => none

inductive Named : Item → Prop where
  | directory {entries : List (Name × Item)} (names : (entries.map (·.1.text)).Nodup)
    (items : ∀ entry ∈ entries, Named entry.2) : Named (directory entries)
  | symlink (target : String) : Named (symlink target)
  | file (contents : List UInt8) : Named (file contents)

end Item

def sortedByName {α : Type} (entries : List (String × α)) : List (String × α) :=
  entries.insertionSort fun left right => compareLe left.1 right.1

mutual

/-- The entries below, in the order in which they are hashed. -/
def Item.visit : Item → List (Path × Kind)
  | .directory entries => (sortedByName (visitEach entries)).flatMap (·.2)
  | .symlink _ => []
  | .file _ => []

def visitEach : List (Name × Item) → List (String × List (Path × Kind))
  | [] => []
  | (name, item) :: rest =>
    (name.text, ([name.text], item.kind) ::
      item.visit.map fun below => (name.text :: below.1, below.2)) :: visitEach rest

end

section Hash

variable (numberText : ℚ → String)

def relativePath (path : Path) : String := "/".intercalate path

def header : Path × Kind → List Json
  | (path, .directory) => [.str "directory", .str (relativePath path)]
  | (path, .symlink target) => [.str "symlink", .str (relativePath path), .str target]
  | (path, .file contents) => [.str "file", .str (relativePath path), .num contents.length]

/-- `hash.update(text, "utf8")` -/
def utf8 (text : List Char) : List UInt8 := text.flatMap String.utf8EncodeChar

def contentsOf : Kind → List UInt8
  | .file contents => contents
  | _ => []

def update (entry : Path × Kind) : List UInt8 :=
  utf8 (stringify numberText (.arr (header entry))).toList ++ contentsOf entry.2

def hashSnapshotTree {δ : Type} (sha256 : List UInt8 → δ) (root : List (Name × Item)) : δ :=
  sha256 ((Item.visit (.directory root)).flatMap (update numberText))

end Hash

lemma mem_visitEach {entries : List (Name × Item)} {text : String} {below : List (Path × Kind)} :
    (text, below) ∈ visitEach entries ↔ ∃ entry ∈ entries, entry.1.text = text ∧
      below = ([text], entry.2.kind) ::
        entry.2.visit.map fun below => (text :: below.1, below.2) := by
  induction entries with
  | nil => simp [visitEach]
  | cons entry rest ih =>
    obtain ⟨name, item⟩ := entry
    rw [visitEach, mem_cons, ih, exists_mem_cons_iff]
    refine or_congr_left ?_
    constructor
    · intro h
      obtain ⟨rfl, rfl⟩ := Prod.mk.inj h
      exact ⟨rfl, rfl⟩
    · rintro ⟨rfl, rfl⟩; rfl

lemma mem_below {item : Item} (h : ∀ path kind, (path, kind) ∈ item.visit ↔
      path ≠ [] ∧ item.get path = some kind) {text : String} {path : Path} {kind : Kind} :
    (path, kind) ∈ ([text], item.kind) ::
        item.visit.map (fun below => (text :: below.1, below.2)) ↔
      ∃ names, path = text :: names ∧ item.get names = some kind := by
  rw [mem_cons, mem_map]
  constructor
  · rintro (heq | ⟨⟨names, kind'⟩, hmem, heq⟩)
    · obtain ⟨rfl, rfl⟩ := Prod.mk.inj heq
      exact ⟨[], rfl, by rw [Item.get]⟩
    · obtain ⟨rfl, rfl⟩ := Prod.mk.inj heq
      exact ⟨names, rfl, ((h names kind').mp hmem).2⟩
  · rintro ⟨names, rfl, hget⟩
    cases names with
    | nil =>
      rw [Item.get] at hget
      exact .inl (by rw [Option.some.inj hget])
    | cons name names =>
      exact .inr ⟨(name :: names, kind), (h _ _).mpr ⟨cons_ne_nil _ _, hget⟩, rfl⟩

lemma get_directory {entries : List (Name × Item)} (hnames : (entries.map (·.1.text)).Nodup)
    {name : String} {names : Path} {kind : Kind} :
    (Item.directory entries).get (name :: names) = some kind ↔
      ∃ entry ∈ entries, entry.1.text = name ∧ entry.2.get names = some kind := by
  rw [Item.get, Option.bind_eq_some_iff]
  constructor
  · rintro ⟨entry, hfind, hget⟩
    exact ⟨entry, mem_of_find?_eq_some hfind, by simpa using List.find?_some hfind, hget⟩
  · rintro ⟨entry, hentry, rfl, hget⟩
    cases hfind : entries.find? fun e => e.1.text = entry.1.text with
    | none => exact absurd (List.find?_eq_none.mp hfind entry hentry) (by simp)
    | some found =>
      have hname : found.1.text = entry.1.text := by simpa using List.find?_some hfind
      obtain rfl := inj_on_of_nodup_map hnames (mem_of_find?_eq_some hfind) hentry hname
      exact ⟨found, rfl, hget⟩

lemma mem_visit {item : Item} (h : item.Named) : ∀ path kind,
    (path, kind) ∈ item.visit ↔ path ≠ [] ∧ item.get path = some kind := by
  induction h with
  | @directory entries hnames _ ih =>
    intro path kind
    have hmem : (path, kind) ∈ (Item.directory entries).visit ↔ ∃ entry ∈ entries,
        ∃ names, path = entry.1.text :: names ∧ entry.2.get names = some kind := by
      rw [Item.visit, mem_flatMap]
      constructor
      · rintro ⟨⟨text, below⟩, hbelow, hkind⟩
        obtain ⟨entry, hentry, rfl, rfl⟩ := mem_visitEach.mp ((mem_insertionSort _).mp hbelow)
        exact ⟨entry, hentry, (mem_below (ih entry hentry)).mp hkind⟩
      · rintro ⟨entry, hentry, hnames⟩
        exact ⟨_, (mem_insertionSort _).mpr (mem_visitEach.mpr ⟨entry, hentry, rfl, rfl⟩),
          (mem_below (ih entry hentry)).mpr hnames⟩
    rw [hmem]
    cases path with
    | nil => simp
    | cons name names =>
      rw [get_directory hnames]
      constructor
      · rintro ⟨entry, hentry, names', heq, hget⟩
        obtain ⟨rfl, rfl⟩ := cons.inj heq
        exact ⟨cons_ne_nil _ _, entry, hentry, rfl, hget⟩
      · rintro ⟨-, entry, hentry, rfl, hget⟩; exact ⟨entry, hentry, names, rfl, hget⟩
  | _ =>
    intro path kind
    rw [Item.visit]
    cases path <;> simp [Item.get]

/-- The paths are visited in the order of their names. -/
def Earlier (a b : Path × Kind) : Prop := a.1.map codeUnits < b.1.map codeUnits

lemma names_visitEach (entries : List (Name × Item)) :
    (visitEach entries).map (·.1) = entries.map (·.1.text) := by
  induction entries with
  | nil => rw [visitEach]; rfl
  | cons entry rest ih =>
    obtain ⟨name, item⟩ := entry
    rw [visitEach, map_cons, map_cons, ih]

lemma sortedByName_pairwise {α : Type} {entries : List (String × α)}
    (hnames : (entries.map (·.1)).Nodup) :
    (sortedByName entries).Pairwise fun a b => codeUnits a.1 < codeUnits b.1 := by
  have hdistinct := (((perm_insertionSort (fun a b : String × α => compareLe a.1 b.1)
    entries).map (·.1)).nodup_iff.mpr hnames)
  refine ((pairwise_insertionSort (fun a b : String × α => compareLe a.1 b.1) entries).and
    (pairwise_map.mp hdistinct)).imp fun h => lt_of_le_of_ne h.1 fun heq => ?_
  exact h.2 (codeUnits_injective heq)

lemma visit_pairwise {item : Item} (h : item.Named) : item.visit.Pairwise Earlier := by
  induction h with
  | @directory entries hnames hitems ih =>
    have hheads : ∀ part ∈ sortedByName (visitEach entries), ∀ x ∈ part.2, ∃ names,
        x.1 = part.1 :: names := by
      rintro ⟨text, below⟩ hpart ⟨path, kind⟩ hx
      obtain ⟨entry, hentry, rfl, rfl⟩ := mem_visitEach.mp ((mem_insertionSort _).mp hpart)
      obtain ⟨names, hpath, -⟩ := (mem_below (mem_visit (hitems entry hentry))).mp hx
      exact ⟨names, hpath⟩
    rw [Item.visit, pairwise_flatMap]
    constructor
    · rintro ⟨text, below⟩ hbelow
      obtain ⟨entry, hentry, rfl, rfl⟩ := mem_visitEach.mp ((mem_insertionSort _).mp hbelow)
      refine pairwise_cons.mpr ⟨fun x hx => ?_, pairwise_map.mpr
        ((ih entry hentry).imp fun hab => cons_lt_cons_self.mpr hab)⟩
      obtain ⟨⟨path, kind⟩, hmem, rfl⟩ := mem_map.mp hx
      have hne := ((mem_visit (hitems entry hentry) path kind).mp hmem).1
      obtain ⟨name, names, rfl⟩ := exists_cons_of_ne_nil hne
      exact cons_lt_cons_self.mpr (nil_lt_cons _ _)
    · refine Pairwise.imp_of_mem (fun {a b} ha hb hlt x hx y hy => ?_)
        (sortedByName_pairwise (names_visitEach entries ▸ hnames))
      obtain ⟨names, hx⟩ := hheads a ha x hx
      obtain ⟨names', hy⟩ := hheads b hb y hy
      unfold Earlier
      rw [hx, hy]; exact List.Lex.rel hlt
  | _ => rw [Item.visit]; exact .nil

/-- The walk tells what stands at every path, and nothing else. -/
lemma visit_eq_iff {root root' : List (Name × Item)} (h : (Item.directory root).Named)
    (h' : (Item.directory root').Named) :
    (Item.directory root).visit = (Item.directory root').visit ↔
      ∀ path, (Item.directory root).get path = (Item.directory root').get path := by
  constructor
  · intro heq path
    cases path with
    | nil => rw [Item.get, Item.get]; rfl
    | cons name names =>
      refine Option.ext fun kind => ?_
      have hmem := mem_visit h (name :: names) kind
      rw [heq, mem_visit h'] at hmem
      simpa using hmem.symm
  · intro hget
    have hmem : ∀ entry, entry ∈ (Item.directory root).visit ↔
        entry ∈ (Item.directory root').visit := by
      rintro ⟨path, kind⟩
      rw [mem_visit h, mem_visit h', hget]
    have hnodup : ∀ {item : Item}, item.Named → item.visit.Nodup := fun hitem =>
      (visit_pairwise hitem).imp fun {a b} hlt (heq : a = b) => lt_irrefl _ (heq ▸ hlt)
    refine Perm.eq_of_pairwise (fun a b _ _ hab hba => ?_) (visit_pairwise h)
      (visit_pairwise h') ((perm_ext_iff_of_nodup (hnodup h) (hnodup h')).mpr hmem)
    exact absurd hba (lt_asymm hab)

lemma utf8EncodeChar_append {c d : Char} {bytes bytes' : List UInt8}
    (h : String.utf8EncodeChar c ++ bytes = String.utf8EncodeChar d ++ bytes') :
    c = d ∧ bytes = bytes' := by
  have hdecode : ∀ (c : Char) (bytes : List UInt8),
      (String.utf8EncodeChar c ++ bytes).toByteArray.utf8DecodeChar? 0 = some c := by
    intro c bytes
    rw [toByteArray_append]; exact ByteArray.utf8DecodeChar?_utf8EncodeChar_append
  have hc := hdecode c bytes
  rw [h, hdecode] at hc
  obtain rfl := Option.some.inj hc
  exact ⟨rfl, append_cancel_left h⟩

lemma utf8_append {cs ds : List Char} {bytes bytes' : List UInt8}
    (h : utf8 cs ++ bytes = utf8 ds ++ bytes') :
    ∃ es, cs = ds ++ es ∧ utf8 es ++ bytes = bytes' ∨ ds = cs ++ es ∧ bytes = utf8 es ++ bytes' := by
  induction cs generalizing ds with
  | nil => exact ⟨ds, .inr ⟨rfl, h⟩⟩
  | cons c cs ih =>
    cases ds with
    | nil => exact ⟨c :: cs, .inl ⟨rfl, h⟩⟩
    | cons d ds =>
      unfold utf8 at h
      rw [flatMap_cons, flatMap_cons, append_assoc, append_assoc] at h
      obtain ⟨rfl, hrest⟩ := utf8EncodeChar_append h
      obtain ⟨es, ⟨rfl, hes⟩ | ⟨rfl, hes⟩⟩ := ih hrest
      · exact ⟨es, .inl ⟨rfl, hes⟩⟩
      · exact ⟨es, .inr ⟨rfl, hes⟩⟩

lemma relativePath_inj {path path' : Path} (hne : path ≠ []) (hne' : path' ≠ [])
    (hplain : ∀ name ∈ path, '/' ∉ name.toList) (hplain' : ∀ name ∈ path', '/' ∉ name.toList)
    (h : relativePath path = relativePath path') : path = path' := by
  have hsplit : ∀ {path : Path}, path ≠ [] → (∀ name ∈ path, '/' ∉ name.toList) →
      (relativePath path).toList.splitOn '/' = path.map String.toList := by
    intro path hne hplain
    unfold relativePath
    rw [String.toList_intercalate]
    exact splitOn_intercalate '/' (by simpa using hplain) (by simpa using hne)
  have hpaths := (hsplit hne hplain).symm.trans (h ▸ hsplit hne' hplain')
  exact map_injective_iff.mpr (fun _ _ => String.ext) hpaths

section ReadBack

variable {numberText : ℚ → String} (hnumber : NumberText numberText)
include hnumber

lemma header_append {fields fields' : List Json} {bytes bytes' : List UInt8}
    (h : utf8 (stringify numberText (.arr fields)).toList ++ bytes =
      utf8 (stringify numberText (.arr fields')).toList ++ bytes') :
    fields.map Json.ordered = fields'.map Json.ordered ∧ bytes = bytes' := by
  have hread := fun {fields fields' : List Json} {rest rest' : List Char} =>
    @stringify_arr_append _ hnumber fields fields' (fun x _ => stringifyReadsBack hnumber x) rest rest'
  obtain ⟨es, ⟨heq, hbytes⟩ | ⟨heq, hbytes⟩⟩ := utf8_append h
  · obtain ⟨hfields, hes⟩ := hread ((append_nil _).trans heq)
    exact ⟨hfields, by rw [← hbytes, ← hes]; rfl⟩
  · obtain ⟨hfields, hes⟩ := hread ((append_nil _).trans heq)
    exact ⟨hfields.symm, by rw [hbytes, ← hes]; rfl⟩

lemma update_append {entry entry' : Path × Kind} {bytes bytes' : List UInt8}
    (h : update numberText entry ++ bytes = update numberText entry' ++ bytes') :
    relativePath entry.1 = relativePath entry'.1 ∧ entry.2 = entry'.2 ∧ bytes = bytes' := by
  obtain ⟨path, kind⟩ := entry
  obtain ⟨path', kind'⟩ := entry'
  unfold update at h
  rw [append_assoc, append_assoc] at h
  obtain ⟨hheader, h⟩ := header_append hnumber h
  cases kind <;> cases kind' <;> simp [header, Json.ordered] at hheader
  · exact ⟨hheader, rfl, h⟩
  · obtain ⟨hpath, rfl⟩ := hheader
    exact ⟨hpath, rfl, h⟩
  · obtain ⟨hpath, hlength⟩ := hheader
    obtain ⟨rfl, hrest⟩ := append_inj h hlength
    exact ⟨hpath, rfl, hrest⟩

lemma visit_of_updates {entries entries' : List (Path × Kind)}
    (hplain : ∀ entry ∈ entries, entry.1 ≠ [] ∧ ∀ name ∈ entry.1, '/' ∉ name.toList)
    (hplain' : ∀ entry ∈ entries', entry.1 ≠ [] ∧ ∀ name ∈ entry.1, '/' ∉ name.toList)
    (h : entries.flatMap (update numberText) = entries'.flatMap (update numberText)) :
    entries = entries' := by
  have hnonempty : ∀ entry bytes, update numberText entry ++ bytes ≠ [] := by
    intro entry bytes
    unfold update
    rw [stringify_arr_toList]
    exact append_ne_nil_of_left_ne_nil (append_ne_nil_of_left_ne_nil
      (append_ne_nil_of_left_ne_nil String.utf8EncodeChar_ne_nil _) _) _
  induction entries generalizing entries' with
  | nil =>
    cases entries' with
    | nil => rfl
    | cons entry' rest' => exact absurd h.symm (hnonempty _ _)
  | cons entry rest ih =>
    cases entries' with
    | nil => exact absurd h (hnonempty _ _)
    | cons entry' rest' =>
      rw [flatMap_cons, flatMap_cons] at h
      obtain ⟨hpath, hkind, h⟩ := update_append hnumber h
      obtain ⟨hne, hnames⟩ := hplain entry mem_cons_self
      obtain ⟨hne', hnames'⟩ := hplain' entry' mem_cons_self
      rw [ih (fun x hx => hplain x (mem_cons_of_mem _ hx))
        (fun x hx => hplain' x (mem_cons_of_mem _ hx)) h,
        Prod.ext (relativePath_inj hne hne' hnames hnames' hpath) hkind]

end ReadBack

lemma plain_of_get {path : Path} : ∀ {item : Item} {kind : Kind}, item.get path = some kind →
    ∀ name ∈ path, '/' ∉ name.toList := by
  induction path with
  | nil => exact fun _ => nofun
  | cons first rest ih =>
    intro item kind hget
    cases item with
    | directory entries =>
      rw [Item.get, Option.bind_eq_some_iff] at hget
      obtain ⟨entry, hfind, hget⟩ := hget
      have hname : entry.1.text = first := by simpa using List.find?_some hfind
      intro name hmem
      rcases mem_cons.mp hmem with rfl | hrest
      · rw [← hname]; exact entry.1.plain.2.2.2
      · exact ih hget name hrest
    | _ => cases hget

theorem hashSnapshotTree_eq_iff {δ : Type} {sha256 : List UInt8 → δ} {numberText : ℚ → String}
    (hsha256 : Function.Injective sha256) (hnumber : NumberText numberText)
    {root root' : List (Name × Item)} (h : (Item.directory root).Named)
    (h' : (Item.directory root').Named) :
    hashSnapshotTree numberText sha256 root = hashSnapshotTree numberText sha256 root' ↔
      ∀ path, (Item.directory root).get path = (Item.directory root').get path := by
  rw [← visit_eq_iff h h']
  constructor
  · intro hhash
    exact visit_of_updates hnumber
      (fun entry hentry => ((mem_visit h _ _).mp hentry).imp_right plain_of_get)
      (fun entry hentry => ((mem_visit h' _ _).mp hentry).imp_right plain_of_get)
      (hsha256 hhash)
  · intro hvisit
    unfold hashSnapshotTree
    rw [hvisit]

def memory : Name := ⟨"memory", by decide⟩

def notes : Name := ⟨"notes", by decide⟩

theorem hashSnapshotTree_header :
    hashSnapshotTree listedText id [(memory, .file (utf8 "[\"directory\",\"notes\"]".toList))] ≠
      hashSnapshotTree listedText id [(memory, .file []), (notes, .directory [])] := by
  intro h
  have hget := (hashSnapshotTree_eq_iff Function.injective_id listedText_numberText
    (.directory (by decide) (by simp [Item.Named.file]))
    (.directory (by decide) (by simp [Item.Named.file, Item.Named.directory]))).mp h ["notes"]
  simp [Item.get, memory, notes] at hget

end NemoClaw.SnapshotHash
