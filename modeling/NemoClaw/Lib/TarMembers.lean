import Mathlib.Data.List.DropRight
import NemoClaw.Lib.FileTree

/- What GNU tar puts in an archive that it creates.

The members are found by a walk from the operands. A file whose name an exclude pattern
matches is left out, with all that is below it. A pattern is tried at the start of a name
and behind every slash in it, and one that matches a directory matches what is below.

What is provided:
  1. `excludedName` — the patterns on the text of a name.
  2. `excludedName_iff` — of patterns without special characters: the names of the pattern
     stand in a row somewhere in the path.
  3. `members` — the walk; `mem_members`, what it finds.
  4. `Command` — the part of the command line that is read here.
-/
namespace Tar

open FileTree List

/-- The name of a member. -/
def text (path : Path) : List Char := ['/'].intercalate (path.map String.toList)

/-- Only names that can stand between slashes. -/
def Plain (path : Path) : Prop := ∀ name ∈ path, name ≠ "" ∧ '/' ∉ name.toList

/-! ## Patterns -/

def isSpecial (c : Char) : Bool := c ∈ ['?', '*', '[', '\\']

def behindSlashes : List Char → List (List Char)
  | [] => []
  | c :: cs => if c = '/' then cs :: behindSlashes cs else behindSlashes cs

section

-- how a pattern with special characters matches
variable (glob : List Char → List Char → Bool)

def matchesFrom (pattern name : List Char) : Bool :=
  if pattern.any isSpecial then glob pattern name
  else name = pattern || (pattern ++ ['/']).isPrefixOf name

def excludedName (patterns : List (List Char)) (name : List Char) : Bool :=
  patterns.any fun pattern => (name :: behindSlashes name).any (matchesFrom glob pattern)

end

/-- Every name with a slash behind it. -/
def slashed (path : Path) : List Char := path.flatMap fun name => name.toList ++ ['/']

lemma text_append_slash {path : Path} (hne : path ≠ []) : text path ++ ['/'] = slashed path := by
  induction path with
  | nil => exact absurd rfl hne
  | cons name path ih =>
    cases path with
    | nil => simp [text, slashed, List.intercalate]
    | cons name' path =>
    have ih := ih (cons_ne_nil _ _)
    unfold slashed at ih ⊢
    rw [flatMap_cons, ← ih]; simp [text, List.intercalate, append_assoc]

lemma text_cons {name : String} {path : Path} (hne : path ≠ []) :
    text (name :: path) = name.toList ++ '/' :: text path := by
  cases path with
  | nil => exact absurd rfl hne
  | cons name' path => simp [text, List.intercalate]

lemma prefix_slash_iff {p n a b : List Char} (hp : '/' ∉ p) (hn : '/' ∉ n) :
    p ++ '/' :: a <+: n ++ '/' :: b ↔ p = n ∧ a <+: b := by
  induction p generalizing n with
  | nil =>
    cases n with
    | nil => simp
    | cons c n =>
      have hc : '/' ≠ c := fun h => hn (h ▸ mem_cons_self)
      simp [cons_prefix_cons, hc]
  | cons d p ih =>
    rw [mem_cons, not_or] at hp
    cases n with
    | nil => simp [cons_prefix_cons, Ne.symm hp.1]
    | cons c n =>
      rw [mem_cons, not_or] at hn
      rw [cons_append, cons_append, cons_prefix_cons, ih hp.2 hn.2, List.cons.injEq,
        and_assoc]

lemma slashed_prefix_iff {ps ns : Path} (hps : Plain ps) (hns : Plain ns) :
    slashed ps <+: slashed ns ↔ ps <+: ns := by
  induction ps generalizing ns with
  | nil => simp [slashed]
  | cons p ps ih =>
    cases ns with
    | nil => simp [slashed]
    | cons n ns =>
    obtain ⟨hp, hps⟩ := forall_mem_cons.mp hps
    obtain ⟨hn, hns⟩ := forall_mem_cons.mp hns
    have hcons : ∀ name path, slashed (name :: path) = name.toList ++ '/' :: slashed path := by
      simp [slashed]
    rw [hcons, hcons, prefix_slash_iff hp.2 hn.2, ih hps hns, String.toList_inj,
      cons_prefix_cons]

variable {glob : List Char → List Char → Bool}

lemma matchesFrom_iff {ps ns : Path} (hps : Plain ps) (hne : ps ≠ [])
    (hspecial : (text ps).any isSpecial = false) (hns : Plain ns) (hns' : ns ≠ []) :
    matchesFrom glob (text ps) (text ns) ↔ ps <+: ns := by
  unfold matchesFrom
  rw [if_neg (by simp [hspecial]), Bool.or_eq_true, decide_eq_true_eq, isPrefixOf_iff_prefix,
    ← slashed_prefix_iff hps hns, ← text_append_slash hne, ← text_append_slash hns',
    prefix_concat_iff, append_left_inj]
  exact or_congr_left eq_comm

lemma behindSlashes_of_notMem {cs : List Char} (h : '/' ∉ cs) : behindSlashes cs = [] := by
  induction cs with
  | nil => rfl
  | cons c cs ih =>
    rw [mem_cons, not_or] at h
    unfold behindSlashes
    rw [if_neg (Ne.symm h.1), ih h.2]

lemma behindSlashes_append {cs : List Char} (ds : List Char) (h : '/' ∉ cs) :
    behindSlashes (cs ++ '/' :: ds) = ds :: behindSlashes ds := by
  induction cs with
  | nil => rfl
  | cons c cs ih =>
    rw [mem_cons, not_or] at h
    rw [cons_append, behindSlashes, if_neg (Ne.symm h.1), ih h.2]

lemma any_matchesFrom_iff {ps ns : Path} (hps : Plain ps) (hne : ps ≠ [])
    (hspecial : (text ps).any isSpecial = false) (hns : Plain ns) (hns' : ns ≠ []) :
    (text ns :: behindSlashes (text ns)).any (matchesFrom glob (text ps)) ↔
      ps <:+: ns := by
  induction ns with
  | nil => exact absurd rfl hns'
  | cons n ns ih =>
    rw [any_cons, Bool.or_eq_true, matchesFrom_iff hps hne hspecial hns hns',
      infix_cons_iff]
    refine or_congr_right ?_
    obtain ⟨hn, hns⟩ := forall_mem_cons.mp hns
    by_cases hlast : ns = []
    · have htext : text [n] = n.toList := by simp [text, List.intercalate]
      rw [hlast, htext, behindSlashes_of_notMem hn.2, infix_nil]; simp [hne]
    · rw [text_cons hlast, behindSlashes_append _ hn.2]; exact ih hns hlast

theorem excludedName_iff {patterns : List Path}
    (hpatterns : ∀ ps ∈ patterns, Plain ps ∧ ps ≠ [] ∧ (text ps).any isSpecial = false) {ns : Path}
    (hns : Plain ns) (hns' : ns ≠ []) :
    excludedName glob (patterns.map text) (text ns) ↔ ∃ ps ∈ patterns, ps <:+: ns := by
  unfold excludedName
  rw [any_map, any_eq_true]
  refine exists_congr fun ps => and_congr_right fun hmem => ?_
  obtain ⟨hps, hne, hspecial⟩ := hpatterns ps hmem
  exact any_matchesFrom_iff hps hne hspecial hns hns'

mutual

def members (excluded : Path → Bool) (path : Path) : Node → List Path
  | .file => if excluded path then [] else [path]
  | .link _ => if excluded path then [] else [path]
  | .dir _ entries =>
    if excluded path then [] else path :: entryMembers excluded path entries

def entryMembers (excluded : Path → Bool) (path : Path) : Entries → List Path
  | .nil => []
  | .cons name node rest =>
    members excluded (path ++ [name.text]) node ++ entryMembers excluded path rest

end

/-- The file at the path and everything below it. -/
def listing (path : Path) (node : Node) : List Path := members (fun _ => false) path node

mutual

lemma exists_of_mem_listing {path p : Path} :
    (node : Node) → p ∈ listing path node → ∃ names : List Name, p = path ++ names.map (·.text)
  | .file, h => ⟨[], by simpa [listing, members] using h⟩
  | .link _, h => ⟨[], by simpa [listing, members] using h⟩
  | .dir _ entries, h => by
    rcases mem_cons.mp (by simpa [listing, members] using h) with rfl | h
    · exact ⟨[], by simp⟩
    · exact exists_of_mem_entryMembers entries h

lemma exists_of_mem_entryMembers {path p : Path} :
    (entries : Entries) → p ∈ entryMembers (fun _ => false) path entries →
      ∃ names : List Name, p = path ++ names.map (·.text)
  | .nil, h => absurd h not_mem_nil
  | .cons name node rest, h => by
    unfold entryMembers at h
    rcases mem_append.mp h with h | h
    · obtain ⟨names, rfl⟩ := exists_of_mem_listing node h
      exact ⟨name :: names, by simp⟩
    · exact exists_of_mem_entryMembers rest h

end

lemma plain_append {path : Path} (hpath : Plain path) (names : List Name) :
    Plain (path ++ names.map (·.text)) := by
  intro name hname
  rcases mem_append.mp hname with hname | hname
  · exact hpath name hname
  · obtain ⟨name, -, rfl⟩ := mem_map.mp hname
    exact ⟨name.plain.1, name.plain.2.2.2⟩

/-- Everything below an excluded file is excluded. -/
def Downward (excluded : Path → Bool) : Prop :=
  ∀ path p, Plain p → path ≠ [] → path <+: p → excluded path → excluded p

section

variable {excluded : Path → Bool}

lemma mem_members_of_excluded (hdown : Downward excluded) {path p : Path} {node : Node}
    (hpath : Plain path) (hne : path ≠ []) (hexcluded : excluded path) :
    p ∈ members excluded path node ↔ p ∈ listing path node ∧ excluded p = false := by
  have hnone : members excluded path node = [] := by
    cases node <;> simp [members, hexcluded]
  rw [hnone]
  refine iff_of_false not_mem_nil ?_
  rintro ⟨hmem, hkept⟩
  obtain ⟨names, rfl⟩ := exists_of_mem_listing node hmem
  have hp := hdown path _ (plain_append hpath names) hne (prefix_append _ _) hexcluded
  rw [hkept] at hp; exact Bool.false_ne_true hp

lemma mem_singleton_kept {path p : Path} (h : excluded path = false) :
    p ∈ [path] ↔ p ∈ [path] ∧ excluded p = false := by
  constructor
  · intro hp; exact ⟨hp, mem_singleton.mp hp ▸ h⟩
  · exact And.left

mutual

theorem mem_members (hdown : Downward excluded) {path p : Path} (hpath : Plain path)
    (hne : path ≠ []) (node : Node) :
    p ∈ members excluded path node ↔ p ∈ listing path node ∧ excluded p = false := by
  cases h : excluded path with
  | true => exact mem_members_of_excluded hdown hpath hne h
  | false =>
  cases node with
  | file => simpa [members, listing, h] using mem_singleton_kept h
  | link target => simpa [members, listing, h] using mem_singleton_kept h
  | dir mode entries =>
  have hentries := mem_entryMembers (p := p) hdown hpath entries
  have hfirst := mem_singleton_kept (p := p) h
  simp only [members, listing, h, mem_cons, not_mem_nil, or_false,
    Bool.false_eq_true, if_false] at hfirst ⊢
  rw [hentries, or_and_right, ← hfirst]

lemma mem_entryMembers (hdown : Downward excluded) {path p : Path} (hpath : Plain path) :
    (entries : Entries) → (p ∈ entryMembers excluded path entries ↔
      p ∈ entryMembers (fun _ => false) path entries ∧ excluded p = false)
  | .nil => by simp [entryMembers]
  | .cons name node rest => by
    have hname : Plain (path ++ [name.text]) := plain_append hpath [name]
    unfold entryMembers
    rw [mem_append, mem_append, mem_members hdown hname (by simp) node,
      mem_entryMembers hdown hpath rest, ← or_and_right]
    rfl

end

end

/-- `tar -cf - -C directory --exclude pattern … -- operand …`. -/
structure Command where
  directory : String
  excludes : List String
  operands : List String

def readExcludes : List String → Option (List String × List String)
  | "--exclude" :: pattern :: args =>
    (readExcludes args).map fun (excludes, operands) => (pattern :: excludes, operands)
  | "--" :: operands => some ([], operands)
  | _ => none

def Command.read : List String → Option Command
  | "-cf" :: "-" :: "-C" :: directory :: args =>
    (readExcludes args).map fun (excludes, operands) => ⟨directory, excludes, operands⟩
  | _ => none

/-- Slashes at the end of an operand are taken off, but not the first character. -/
def withoutSlashes : List Char → List Char
  | [] => []
  | c :: cs => c :: cs.rdropWhile (· = '/')

def operandPath (operand : String) : Path := parts (String.ofList (withoutSlashes operand.toList))

lemma text_ne_nil {path : Path} (hpath : Plain path) (hne : path ≠ []) : text path ≠ [] := by
  obtain ⟨name, rest, rfl⟩ := exists_cons_of_ne_nil hne
  have hname := (hpath name mem_cons_self).1
  by_cases hlast : rest = []
  · simpa [hlast, text, List.intercalate] using hname
  · rw [text_cons hlast]; simp

lemma getLast_text {path : Path} (hpath : Plain path) (hne : path ≠ []) :
    (text path).getLast (text_ne_nil hpath hne) ≠ '/' := by
  induction path with
  | nil => exact absurd rfl hne
  | cons name path ih =>
    obtain ⟨hname, hrest⟩ := forall_mem_cons.mp hpath
    by_cases hlast : path = []
    · subst hlast
      have htext : text [name] = name.toList := by simp [text, List.intercalate]
      intro h
      have hmem := getLast_mem (text_ne_nil hpath hne)
      rw [h, htext] at hmem; exact hname.2 hmem
    · have htext := @text_cons name _ hlast
      simp only [htext]
      rw [getLast_append_of_ne_nil _ (cons_ne_nil _ _),
        getLast_cons (text_ne_nil hrest hlast)]
      exact ih hrest hlast

lemma withoutSlashes_text {path : Path} (hpath : Plain path) (hne : path ≠ []) :
    withoutSlashes (text path) = text path ∧ withoutSlashes (text path ++ ['/']) = text path := by
  have hlast := getLast_text hpath hne
  obtain ⟨c, cs, htext⟩ := exists_cons_of_ne_nil (text_ne_nil hpath hne)
  simp only [htext] at hlast ⊢
  have hself : cs.rdropWhile (· = '/') = cs := by
    refine rdropWhile_eq_self_iff.mpr fun hcs => ?_
    rw [getLast_cons hcs] at hlast; simpa using hlast
  unfold withoutSlashes
  simp only [cons_append, rdropWhile_concat_pos, decide_true, hself, and_self]

lemma parts_text {path : Path} (hpath : Plain path) (hne : path ≠ []) :
    parts (String.ofList (text path)) = path := by
  have hfree : ∀ cs ∈ path.map String.toList, '/' ∉ cs := by
    intro cs hcs
    obtain ⟨name, hname, rfl⟩ := mem_map.mp hcs; exact (hpath name hname).2
  unfold parts text
  rw [String.toList_ofList, splitOn_intercalate '/' hfree (by simpa using hne), map_map]
  simp [Function.comp_def]

def Command.members (glob : List Char → List Char → Bool) (command : Command) (tree : Node) :
    List Path :=
  command.operands.flatMap fun operand =>
    match tree.get (operandPath operand) with
    | none => []
    | some node =>
      Tar.members (fun path => excludedName glob (command.excludes.map String.toList) (text path))
        (operandPath operand) node

end Tar
