import Mathlib.Tactic

/- Lock files: names that link to inodes, each inode made by one party.

A party takes a name by linking a new inode there, which a file system refuses where
the name is taken, and gives it up by removing the name. A name may be gated by
another: a party that holds the gate may remove a file whose maker is dead, and nobody
else may. Under this discipline a name that a live party holds stays its own, and so
does a dead file that a live party has found behind a gate it holds.

What is provided:
  1. `Files`, its operations, and who `Owns` a name.
  2. `Undisturbed` — what a step of another party leaves true, and that publishing,
     putting a file back at a free name and a permitted removal are such steps.
  3. `allKnow_update` — the rule for what all parties know.
-/
namespace LockFiles

open List Function

variable {ι A C : Type}

/-- A file; its maker and what is in it never change. -/
structure Inode (A C : Type) where
  maker : A
  content : C

structure Files (ι A C : Type) where
  linked : ι → Option ℕ
  inodes : List (Inode A C)

namespace Files

variable [DecidableEq ι] (fs : Files ι A C)

/-- A new inode, linked at a name that is free. -/
def publish (x : ι) (a : A) (c : C) : Files ι A C where
  linked := Function.update fs.linked x (some fs.inodes.length)
  inodes := fs.inodes ++ [⟨a, c⟩]

/-- The name is gone. -/
def unlink (x : ι) : Files ι A C :=
  { fs with linked := Function.update fs.linked x none }

/-- An inode that is there already, linked at a name that is free. -/
def relink (x : ι) (ino : ℕ) : Files ι A C :=
  { fs with linked := Function.update fs.linked x (some ino) }

end Files

/-- The party made the inode. -/
def Made (fs : Files ι A C) (a : A) (ino : ℕ) : Prop :=
  ∃ c, fs.inodes[ino]? = some ⟨a, c⟩

/-- The name links to an inode of the party. -/
def Owns (fs : Files ι A C) (a : A) (x : ι) (ino : ℕ) : Prop :=
  fs.linked x = some ino ∧ Made fs a ino

/-- The maker of the inode is dead. -/
def Orphan (fs : Files ι A C) (live : A → Prop) (ino : ℕ) : Prop :=
  ∃ a, Made fs a ino ∧ ¬ live a

variable {fs : Files ι A C}

lemma Made.unique {a b : A} {ino : ℕ} (ha : Made fs a ino) (hb : Made fs b ino) : a = b := by
  obtain ⟨c, hc⟩ := ha
  obtain ⟨d, hd⟩ := hb
  rw [hc] at hd
  cases hd; rfl

lemma Made.mono {fs' : Files ι A C} (h : fs.inodes <+: fs'.inodes) {a : A} {ino : ℕ}
    (hmade : Made fs a ino) : Made fs' a ino := by
  obtain ⟨c, hc⟩ := hmade
  obtain ⟨rest, hrest⟩ := h
  obtain ⟨hlt, -⟩ := List.getElem?_eq_some_iff.mp hc
  refine ⟨c, ?_⟩
  rw [← hrest, List.getElem?_append_left hlt, hc]

lemma Owns.unique {a b : A} {x : ι} {i j : ℕ} (ha : Owns fs a x i) (hb : Owns fs b x j) :
    a = b := by
  cases ha.1.symm.trans hb.1; exact ha.2.unique hb.2

lemma Made.not_orphan {live : A → Prop} {a : A} {ino : ℕ} (h : Made fs a ino) (ha : live a) :
    ¬ Orphan fs live ino := by
  intro ⟨b, hb, hdead⟩; exact hdead (h.unique hb ▸ ha)

lemma Files.made_publish [DecidableEq ι] (fs : Files ι A C) (x : ι) (a : A) (c : C) :
    Owns (fs.publish x a c) a x fs.inodes.length :=
  ⟨update_self .., c, by simp [Files.publish]⟩

lemma Files.prefix_publish [DecidableEq ι] (fs : Files ι A C) (x : ι) (a : A) (c : C) :
    fs.inodes <+: (fs.publish x a c).inodes := prefix_append _ _

/-- What was made stays, and the dead stay dead. -/
structure Later (live live' : A → Prop) (fs fs' : Files ι A C) : Prop where
  inodes : fs.inodes <+: fs'.inodes
  dead : ∀ a, ¬ live a → ¬ live' a

lemma Later.orphan {live live' : A → Prop} {fs' : Files ι A C} (h : Later live live' fs fs')
    {ino : ℕ} (ho : Orphan fs live ino) : Orphan fs' live' ino := by
  obtain ⟨a, hmade, hdead⟩ := ho; exact ⟨a, hmade.mono h.inodes, h.dead a hdead⟩

/-- What a step of others leaves true for a live party: what it owns, and the dead files
behind the gates it owns. -/
structure Undisturbed (gate : ι → Option ι) (live live' : A → Prop) (a : A)
    (fs fs' : Files ι A C) : Prop extends Later live live' fs fs' where
  held : ∀ x ino, live a → Owns fs a x ino → fs'.linked x = some ino
  gated : ∀ x g ino j, live a → gate x = some g → Owns fs a g j → fs.linked x = some ino →
    Orphan fs live ino → fs'.linked x = some ino

section Undisturbed

variable {gate : ι → Option ι} {live live' : A → Prop} {a b : A} {fs fs' : Files ι A C}

variable {ino : ℕ}

lemma Undisturbed.owns (h : Undisturbed gate live live' a fs fs') (ha : live a) {x : ι}
    (howns : Owns fs a x ino) : Owns fs' a x ino :=
  ⟨h.held x ino ha howns, howns.2.mono h.inodes⟩

lemma Undisturbed.of_same (hdead : ∀ a, ¬ live a → ¬ live' a) :
    Undisturbed gate live live' a fs fs where
  inodes := prefix_refl _
  dead := hdead
  held := fun _ _ _ h => h.1
  gated := fun _ _ _ _ _ _ _ h _ => h

variable [DecidableEq ι] {x : ι}

lemma linked_of_free (hfree : fs.linked x = none) {y : ι} {j : ℕ} (h : fs.linked y = some j) :
    Function.update fs.linked x (some ino) y = some j := by
  have hne : y ≠ x := by
    intro heq
    rw [heq, hfree] at h; cases h
  rw [update_of_ne hne, h]

lemma Undisturbed.of_publish (hfree : fs.linked x = none) (c : C) :
    Undisturbed gate live live a fs (fs.publish x b c) where
  inodes := fs.prefix_publish x b c
  dead := fun _ h => h
  held := fun _ _ _ h => linked_of_free hfree h.1
  gated := fun _ _ _ _ _ _ _ h _ => linked_of_free hfree h

lemma Undisturbed.of_relink (hfree : fs.linked x = none) (ino : ℕ) :
    Undisturbed gate live live a fs (fs.relink x ino) where
  inodes := prefix_refl _
  dead := fun _ h => h
  held := fun _ _ _ h => linked_of_free hfree h.1
  gated := fun _ _ _ _ _ _ _ h _ => linked_of_free hfree h

lemma Owns.of_unlink {y : ι} (h : Owns fs a y ino) (hne : y ≠ x) :
    Owns (fs.unlink x) a y ino := ⟨(update_of_ne hne _ _).trans h.1, h.2⟩

lemma Owns.of_relink {y : ι} {j : ℕ} (h : Owns fs a y ino) (hfree : fs.linked x = none) :
    Owns (fs.relink x j) a y ino := ⟨linked_of_free hfree h.1, h.2⟩

/-- Why a live party may remove a name: the file is its own, or the file's maker is dead
and the party owns the gate. -/
def MayUnlink (gate : ι → Option ι) (live : A → Prop) (fs : Files ι A C) (b : A) (x : ι)
    (ino : ℕ) : Prop :=
  Made fs b ino ∨ Orphan fs live ino ∧ ∃ g j, gate x = some g ∧ Owns fs b g j

lemma Undisturbed.of_unlink (hb : live b) (hne : a ≠ b) (hlinked : fs.linked x = some ino)
    (hmay : MayUnlink gate live fs b x ino) :
    Undisturbed gate live live a fs (fs.unlink x) where
  inodes := prefix_refl _
  dead := fun _ h => h
  held := by
    intro y j ha howns
    by_cases hy : y = x
    · subst hy
      cases hlinked.symm.trans howns.1
      rcases hmay with hmade | ⟨horphan, -⟩
      · exact absurd (howns.2.unique hmade) hne
      · exact absurd horphan (howns.2.not_orphan ha)
    · exact (update_of_ne hy _ _).trans howns.1
  gated := by
    intro y g j k ha hgate hguard hj horphan
    by_cases hy : y = x
    · subst hy
      cases hlinked.symm.trans hj
      rcases hmay with hmade | ⟨-, g', k', hgate', hguard'⟩
      · exact absurd horphan (hmade.not_orphan hb)
      · cases hgate.symm.trans hgate'; exact absurd (hguard.unique hguard') hne
    · exact (update_of_ne hy _ _).trans hj

/-- At a name without a gate a dead file may be removed by anyone. -/
lemma Undisturbed.of_unlink_ungated (hgate : gate x = none) (hlinked : fs.linked x = some ino)
    (horphan : Orphan fs live ino) :
    Undisturbed gate live live a fs (fs.unlink x) where
  inodes := prefix_refl _
  dead := fun _ h => h
  held := by
    intro y j ha howns
    have hy : y ≠ x := by
      rintro rfl; cases hlinked.symm.trans howns.1; exact howns.2.not_orphan ha horphan
    exact (update_of_ne hy _ _).trans howns.1
  gated := by
    intro y g j k _ hgated _ hj _
    have hy : y ≠ x := by
      rintro rfl
      rw [hgate] at hgated; cases hgated
    exact (update_of_ne hy _ _).trans hj

end Undisturbed

/-- After a step of one party all know what they claim to, if the party does and the others keep
what they knew. -/
theorem allKnow_update [DecidableEq A] {L : Type} {Knows Knows' : A → L → Prop} {locals : A → L}
    {b : A} {l : L} (hall : ∀ a, Knows a (locals a)) (hself : Knows' b l)
    (hframe : ∀ a, a ≠ b → Knows a (locals a) → Knows' a (locals a)) (a : A) :
    Knows' a (Function.update locals b l a) := by
  by_cases ha : a = b
  · subst ha
    rw [update_self]; exact hself
  · rw [update_of_ne ha]; exact hframe a ha (hall a)

end LockFiles
