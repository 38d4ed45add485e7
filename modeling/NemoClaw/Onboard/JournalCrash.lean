import NemoClaw.Lib.Runs
import NemoClaw.Onboard.PrivateFiles

/- What a crash leaves of a store of journals.

A store keeps a journal under a name for each identity, and beside some of them a
decision. An operation is a program; a crash cuts it between two of its calls.

What is provided:
  1. `Good` — journals and decisions that a load can read, and the writes that keep
     them so.
  2. `Settles` — every state that an operation leads through holds the journal before
     or after it, or else a file is linked at two names; `Settles.bind`.
  3. `Reads`, `Loads` — what a store reads of its files, and what operations have in
     common: `Reads.publish`, `Reads.remove`, `Loads.found`.
  4. `Act`, `step` — runs of operations, completed or cut.
  5. `Survives` — what the next load and the next listing find after a crash;
     `Settles.survives`.
-/
namespace NemoClaw.JournalCrash

open CallTree PrivateFiles List

variable {T C V α β Op : Type} [DecidableEq T]

abbrev Slots (T C : Type) := AList fun _ : T => File C

structure Layout (T C : Type) where
  journal : String → T
  decision : String → T
  isName : T → Prop
  stored : String → C → Prop
  decides : String → C → C → Prop
  journal_injective : Function.Injective journal
  decision_injective : Function.Injective decision
  apart : ∀ id id', journal id ≠ decision id'

structure Good (L : Layout T C) (F : Slots T C) : Prop where
  names : ∀ x f, F.lookup x = some f → L.isName x
  journal : ∀ id f, F.lookup (L.journal id) = some f → ∃ c, f = ⟨c, []⟩ ∧ L.stored id c
  decision : ∀ id f, F.lookup (L.decision id) = some f → ∃ c' c, f = ⟨c', []⟩ ∧
    F.lookup (L.journal id) = some ⟨c, []⟩ ∧ L.decides id c c'

section Good

variable {L : Layout T C} {F : Slots T C} {id : String} {c : C}

lemma Good.empty : Good L (∅ : Slots T C) where
  names := fun _ _ h => nomatch h
  journal := fun _ _ h => nomatch h
  decision := fun _ _ h => nomatch h

section

variable (h : Good L F)
include h

lemma Good.slot (id : String) :
    (F.lookup (L.journal id) = none ∧ F.lookup (L.decision id) = none) ∨
      ∃ c, F.lookup (L.journal id) = some ⟨c, []⟩ ∧ L.stored id c ∧
        (F.lookup (L.decision id) = none ∨
          ∃ c', F.lookup (L.decision id) = some ⟨c', []⟩ ∧ L.decides id c c') := by
  cases hj : F.lookup (L.journal id) with
  | none =>
    refine .inl ⟨rfl, ?_⟩
    cases hd : F.lookup (L.decision id) with
    | none => rfl
    | some f =>
      obtain ⟨c', c, -, hjournal, -⟩ := h.decision id f hd
      rw [hj] at hjournal; cases hjournal
  | some f =>
    obtain ⟨c, rfl, hstored⟩ := h.journal id f hj
    refine .inr ⟨c, rfl, hstored, ?_⟩
    cases hd : F.lookup (L.decision id) with
    | none => exact .inl rfl
    | some g =>
    obtain ⟨c', c2, rfl, hjournal, hdecides⟩ := h.decision id g hd
    rw [hj] at hjournal
    cases hjournal; exact .inr ⟨c', rfl, hdecides⟩

lemma Good.journal_whole : ∀ f ∈ F.lookup (L.journal id), f.temporaries = [] := by
  intro f hf
  obtain ⟨c, rfl, -⟩ := h.journal id f hf; rfl

lemma Good.decision_whole : ∀ f ∈ F.lookup (L.decision id), f.temporaries = [] := by
  intro f hf
  obtain ⟨c', c, rfl, -⟩ := h.decision id f hf; rfl

lemma Good.names_insert {x : T} (hx : L.isName x) (f : File C) :
    ∀ y g, (F.insert x f).lookup y = some g → L.isName y := by
  intro y g hy
  by_cases heq : y = x
  · rw [heq]; exact hx
  · rw [AList.lookup_insert_ne heq] at hy; exact h.names y g hy

lemma Good.names_erase (x : T) : ∀ y g, (F.erase x).lookup y = some g → L.isName y := by
  intro y g hy
  by_cases heq : y = x
  · rw [heq, AList.lookup_erase] at hy; cases hy
  · rw [AList.lookup_erase_ne heq] at hy; exact h.names y g hy

lemma Good.insert_journal (hname : L.isName (L.journal id)) (hc : L.stored id c)
    (hd : ∀ c', F.lookup (L.decision id) = some ⟨c', []⟩ → L.decides id c c') :
    Good L (F.insert (L.journal id) ⟨c, []⟩) where
  names := h.names_insert hname _
  journal := by
    intro id' f hf
    by_cases heq : id' = id
    · subst heq
      rw [AList.lookup_insert] at hf; exact ⟨c, (Option.some.inj hf).symm, hc⟩
    · rw [AList.lookup_insert_ne (L.journal_injective.ne heq)] at hf
      exact h.journal id' f hf
  decision := by
    intro id' f hf
    rw [AList.lookup_insert_ne (L.apart id id').symm] at hf
    obtain ⟨c', c2, rfl, hjournal, hdecides⟩ := h.decision id' f hf
    by_cases heq : id' = id
    · subst heq; exact ⟨c', c, rfl, AList.lookup_insert _, hd c' hf⟩
    · have hne := L.journal_injective.ne heq
      exact ⟨c', c2, rfl, (AList.lookup_insert_ne hne).trans hjournal, hdecides⟩

lemma Good.insert_decision (hname : L.isName (L.decision id)) {c' : C}
    (hj : F.lookup (L.journal id) = some ⟨c, []⟩) (hd : L.decides id c c') :
    Good L (F.insert (L.decision id) ⟨c', []⟩) where
  names := h.names_insert hname _
  journal := by
    intro id' f hf
    rw [AList.lookup_insert_ne (L.apart id' id)] at hf; exact h.journal id' f hf
  decision := by
    intro id' f hf
    have hjournal' : (F.insert (L.decision id) ⟨c', []⟩).lookup (L.journal id') =
        F.lookup (L.journal id') := AList.lookup_insert_ne (L.apart id' id)
    by_cases heq : id' = id
    · subst heq
      rw [AList.lookup_insert] at hf
      exact ⟨c', c, (Option.some.inj hf).symm, hjournal'.trans hj, hd⟩
    · rw [AList.lookup_insert_ne (L.decision_injective.ne heq)] at hf
      obtain ⟨c1, c2, rfl, hjournal, hdecides⟩ := h.decision id' f hf
      exact ⟨c1, c2, rfl, hjournal'.trans hjournal, hdecides⟩

lemma Good.erase_decision : Good L (F.erase (L.decision id)) where
  names := h.names_erase _
  journal := by
    intro id' f hf
    rw [AList.lookup_erase_ne (L.apart id' id)] at hf; exact h.journal id' f hf
  decision := by
    intro id' f hf
    by_cases heq : L.decision id' = L.decision id
    · rw [heq, AList.lookup_erase] at hf; cases hf
    · rw [AList.lookup_erase_ne heq] at hf
      obtain ⟨c', c, rfl, hjournal, hdecides⟩ := h.decision id' f hf
      exact ⟨c', c, rfl, (AList.lookup_erase_ne (L.apart id' id)).trans hjournal, hdecides⟩

lemma Good.erase_journal (hd : F.lookup (L.decision id) = none) :
    Good L (F.erase (L.journal id)) where
  names := h.names_erase _
  journal := by
    intro id' f hf
    by_cases heq : L.journal id' = L.journal id
    · rw [heq, AList.lookup_erase] at hf; cases hf
    · rw [AList.lookup_erase_ne heq] at hf; exact h.journal id' f hf
  decision := by
    intro id' f hf
    rw [AList.lookup_erase_ne (L.apart id id').symm] at hf
    obtain ⟨c', c, rfl, hjournal, hdecides⟩ := h.decision id' f hf
    have hne : L.journal id' ≠ L.journal id := by
      intro hsame
      rw [L.journal_injective hsame, hd] at hf; cases hf
    exact ⟨c', c, rfl, (AList.lookup_erase_ne hne).trans hjournal, hdecides⟩

lemma Good.insert_other {x : T} (hname : L.isName x)
    (hx : ∀ id, L.journal id ≠ x ∧ L.decision id ≠ x) (f : File C) : Good L (F.insert x f) where
  names := h.names_insert hname f
  journal := by
    intro id g hg
    rw [AList.lookup_insert_ne (hx id).1] at hg; exact h.journal id g hg
  decision := by
    intro id g hg
    rw [AList.lookup_insert_ne (hx id).2] at hg
    rw [AList.lookup_insert_ne (hx id).1]; exact h.decision id g hg

end

end Good

/-- A journal or a decision is linked at its name and at a temporary one. -/
def Torn (L : Layout T C) (F : Slots T C) : Prop :=
  ∃ id f, (F.lookup (L.journal id) = some f ∨ F.lookup (L.decision id) = some f) ∧
    f.temporaries ≠ []

lemma Torn.insert_journal {L : Layout T C} {F : Slots T C} {id : String} {c : C} {n : ℕ} :
    Torn L (F.insert (L.journal id) ⟨c, [n]⟩) :=
  ⟨id, ⟨c, [n]⟩, .inl (AList.lookup_insert _), cons_ne_nil n []⟩

lemma Torn.insert_decision {L : Layout T C} {F : Slots T C} {id : String} {c : C} {n : ℕ} :
    Torn L (F.insert (L.decision id) ⟨c, [n]⟩) :=
  ⟨id, ⟨c, [n]⟩, .inr (AList.lookup_insert _), cons_ne_nil n []⟩

lemma Good.not_torn {L : Layout T C} {F : Slots T C} (h : Good L F) : ¬Torn L F := by
  rintro ⟨id, f, hj | hd, htemporaries⟩
  · exact htemporaries (h.journal_whole f hj)
  · exact htemporaries (h.decision_whole f hd)

/-- In good order with the journal before or after the operation, or torn. -/
def Settled (L : Layout T C) (value : Slots T C → V) (before after : V) (F : Slots T C) : Prop :=
  Torn L F ∨ Good L F ∧ (value F = before ∨ value F = after)

/-- The operation ends in good order, and every state on the way has the journal as before or as at
the end, or is torn. -/
def Settles (L : Layout T C) (value : Slots T C → V) (before : V) (t : Program T C α)
    (d : Files T C) : Prop :=
  ∃ after, Runs L.isName (Settled L value before after)
    (fun d' _ => Good L d'.files ∧ value d'.files = after) t d

section Settles

variable {L : Layout T C} {value : Slots T C → V} {before : V} {d : Files T C}

lemma Settles.done {r : Except Failure α} (h : Good L d.files) (hv : value d.files = before) :
    Settles L value before (.done r) d := ⟨before, .done ⟨h, hv⟩⟩

/-- Where the first call changes no journal, the rest decides what the operation comes to. -/
lemma Settles.call {post : Files T C → Except Failure α → Prop} {q : FsCall T C}
    {k : FsCall.Answer q → Program T C α} {k' : FsCall.Answer q → Program T C β}
    (h : Runs L.isName (fun F => Good L F ∧ value F = before) post (.call q k) d)
    (hgood : Good L d.files) (hvalue : value d.files = before)
    (hrest : ∀ d' a, Runs L.isName (fun F => Good L F ∧ value F = before) post (k a) d' →
      Good L d'.files → value d'.files = before → Settles L value before (k' a) d') :
    Settles L value before (.call q k') d := by
  obtain ⟨hkeep, hk⟩ := h d rfl trivial
  obtain ⟨hgood', hvalue'⟩ := hkeep.files ⟨hgood, hvalue⟩
  obtain ⟨after, hafter⟩ := hrest _ _ hk hgood' hvalue'
  refine ⟨after, ?_⟩
  rintro d' rfl -; exact ⟨⟨fun _ => .inr ⟨hgood', .inl hvalue'⟩, hkeep.loose⟩, hafter⟩

theorem Settles.bind {post : Files T C → Except Failure α → Prop} {t : Program T C α}
    {f : α → Program T C β}
    (h : Runs L.isName (fun F => Good L F ∧ value F = before) post t d)
    (hgood : Good L d.files) (hvalue : value d.files = before)
    (hok : ∀ d a, post d (.ok a) → Good L d.files → value d.files = before →
      Settles L value before (f a) d) :
    Settles L value before (t.bind f) d := by
  induction t generalizing d with
  | done r =>
    cases r with
    | ok a => exact hok d a (h d rfl) hgood hvalue
    | error e => exact .done hgood hvalue
  | call q k ih => exact .call h hgood hvalue fun _ a hk hgood' => ih a hk hgood'

lemma Settles.quiet {post : Files T C → Except Failure α → Prop} {t : Program T C α}
    (h : Runs L.isName (fun F => Good L F ∧ value F = before) post t d)
    (hgood : Good L d.files) (hvalue : value d.files = before) : Settles L value before t d := by
  induction t generalizing d with
  | done r => exact .done hgood hvalue
  | call q k ih => exact .call h hgood hvalue fun _ a hk hgood' => ih a hk hgood'

lemma Settles.void {t : Program T C α} (h : Settles L value before t d) :
    Settles L value before (t.bind fun _ => .done (.ok ())) d := by
  obtain ⟨after, h⟩ := h
  exact ⟨after, h.bind (fun _ _ hd => .done hd) fun _ _ hd => hd⟩

lemma Settles.lift {r : Except Failure α} {f : α → Program T C β} (hgood : Good L d.files)
    (hvalue : value d.files = before)
    (hok : ∀ a, r = .ok a → Settles L value before (f a) d) :
    Settles L value before ((Tree.lift r).bind f) d := by
  cases r with
  | ok a => exact hok a rfl
  | error e => exact .done hgood hvalue

end Settles

structure Reads {J : Type} (L : Layout T C) (journal : J → C)
    (value : Slots T C → String → Option J) : Prop where
  congr : ∀ {F F' id}, F'.lookup (L.journal id) = F.lookup (L.journal id) →
    F'.lookup (L.decision id) = F.lookup (L.decision id) → value F' id = value F id
  absent : ∀ {F id}, F.lookup (L.journal id) = none → value F id = none
  undecided : ∀ {F id j}, F.lookup (L.journal id) = some ⟨journal j, []⟩ →
    F.lookup (L.decision id) = none → value F id = some j

section Reads

variable {J : Type} {L : Layout T C} {journal : J → C} {value : Slots T C → String → Option J}
  {F F' : Slots T C} {id : String} {j : J} {d : Files T C} {before : String → Option J}

section

variable (h : Reads L journal value)
include h

/-- Where only one identity is touched, only its journal is another. -/
lemma Reads.update {v : Option J} (hv : value F' id = v)
    (hothers : ∀ id', id' ≠ id → F'.lookup (L.journal id') = F.lookup (L.journal id') ∧
      F'.lookup (L.decision id') = F.lookup (L.decision id')) :
    value F' = Function.update (value F) id v := by
  funext id'
  by_cases heq : id' = id
  · rw [heq, Function.update_self, hv]
  · rw [Function.update_of_ne heq]; exact h.congr (hothers id' heq).1 (hothers id' heq).2

lemma Reads.insert_journal {f : File C} {v : Option J}
    (hv : value (F.insert (L.journal id) f) id = v) :
    value (F.insert (L.journal id) f) = Function.update (value F) id v :=
  h.update hv fun id' hne => ⟨AList.lookup_insert_ne (L.journal_injective.ne hne),
    AList.lookup_insert_ne (L.apart id id').symm⟩

lemma Reads.insert_decision {f : File C} {v : Option J}
    (hv : value (F.insert (L.decision id) f) id = v) :
    value (F.insert (L.decision id) f) = Function.update (value F) id v :=
  h.update hv fun id' hne => ⟨AList.lookup_insert_ne (L.apart id' id),
    AList.lookup_insert_ne (L.decision_injective.ne hne)⟩

lemma Reads.erase_decision (hj : F.lookup (L.journal id) = some ⟨journal j, []⟩)
    (hvalue : value F id = some j) : value (F.erase (L.decision id)) = value F := by
  have hjournal : ∀ id', (F.erase (L.decision id)).lookup (L.journal id') =
      F.lookup (L.journal id') := fun id' => AList.lookup_erase_ne (L.apart id' id)
  have hkept := h.undecided ((hjournal id).trans hj) (AList.lookup_erase _ _)
  rw [h.update hkept fun id' hne =>
    ⟨hjournal id', AList.lookup_erase_ne (L.decision_injective.ne hne)⟩, ← hvalue,
    Function.update_eq_self]

lemma Reads.erase_journal : value (F.erase (L.journal id)) = Function.update (value F) id none :=
  h.update (h.absent (AList.lookup_erase _ _)) fun id' hne =>
    ⟨AList.lookup_erase_ne (L.journal_injective.ne hne), AList.lookup_erase_ne (L.apart id id').symm⟩

end

theorem Reads.publish (hgood : Good L d.files) {c : C} {v : Option J}
    (hname : L.isName (L.journal id))
    (hnew : Good L (d.files.insert (L.journal id) ⟨c, []⟩) ∧
      value (d.files.insert (L.journal id) ⟨c, []⟩) = Function.update (value d.files) id v) :
    Settles L value (value d.files) (atomicWrite (L.journal id) c true) d := by
  cases hj : d.files.lookup (L.journal id) with
  | some f =>
    refine ⟨value d.files, (atomicWrite_exists hname hj).mono fun d' r hd' => ?_⟩
    rw [hd'.1]; exact ⟨hgood, rfl⟩
  | none =>
    refine ⟨Function.update (value d.files) id v, ?_⟩
    refine (atomicWrite_publishes hname hj (fun _ _ => .inl Torn.insert_journal)
      fun _ _ => .inr ⟨hnew.1, .inr hnew.2⟩).mono fun d' r hd' => ?_
    rw [hd'.1]; exact hnew

lemma Reads.remove_undecided (h : Reads L journal value) (hgood : Good L d.files)
    (hvalue : value d.files = before) (hname : L.isName (L.journal id)) {f : File C}
    (hj : d.files.lookup (L.journal id) = some f)
    (hd : d.files.lookup (L.decision id) = none) :
    Settles L value before (unlinkSync (L.journal id)) d := by
  have hgood' := hgood.erase_journal hd
  have hvalue' : value (d.files.erase (L.journal id)) = _ := h.erase_journal
  rw [hvalue] at hvalue'
  refine ⟨Function.update before id none, ?_⟩
  refine (unlinkSync_runs hname hj fun _ => .inr ⟨hgood', .inr hvalue'⟩).mono fun d' _ hd' => ?_
  rw [hd'.1]; exact ⟨hgood', hvalue'⟩

lemma Reads.remove_decided (h : Reads L journal value) (hgood : Good L d.files)
    (hvalue : value d.files = before) (hname : L.isName (L.journal id))
    (hname' : L.isName (L.decision id))
    (hj : d.files.lookup (L.journal id) = some ⟨journal j, []⟩)
    (hcurrent : value d.files id = some j) {f : File C}
    (hd : d.files.lookup (L.decision id) = some f) :
    Settles L value before ((unlinkSync (L.decision id)).bind fun _ => unlinkSync (L.journal id))
      d := by
  have hgood' : Good L (d.files.erase (L.decision id)) := hgood.erase_decision
  have hvalue' := (h.erase_decision hj hcurrent).trans hvalue
  refine Settles.bind (unlinkSync_runs hname' hd fun _ => ⟨hgood', hvalue'⟩) hgood hvalue
    fun d' _ hd' _ _ => ?_
  obtain ⟨hd', -⟩ := hd'
  rw [← hd'] at hgood' hvalue'
  refine h.remove_undecided hgood' hvalue' hname (f := ⟨journal j, []⟩) ?_ ?_
  · rw [hd', AList.lookup_erase_ne (L.apart id id)]; exact hj
  · rw [hd', AList.lookup_erase]

end Reads

section Loads

variable {J : Type} (L : Layout T C) (journal : J → C) (value : Slots T C → String → Option J)

structure Current (id : String) (v : Option J) (F : Slots T C) : Prop where
  good : Good L F
  value : value F id = v
  file : ∀ j, v = some j → F.lookup (L.journal id) = some ⟨journal j, []⟩

structure Loads (load : String → Program T C (Option J)) : Prop where
  runs : ∀ {d : Files T C} {id : String} {P : Slots T C → Prop}, L.isName (L.journal id) →
    Good L d.files → (∀ F, Good L F → value F = value d.files → P F) →
    Runs L.isName P (fun d' r => r = .ok (value d.files id) ∧
      Current L journal value id (value d.files id) d'.files ∧ value d'.files = value d.files)
      (load id) d
  reads : ∀ {id}, L.isName (L.journal id) →
    ∃ f, load id = (readPrivateFile (L.journal id) "journal").bind f
  invalid : ∀ {id}, ¬L.isName (L.journal id) → ∃ e, load id = .done (.error e)

variable {L journal value} {load : String → Program T C (Option J)} {d : Files T C}
  {id : String} {before after : String → Option J} {f : Option J → Program T C α}

lemma Current.of_file {F : Slots T C} {j : J} (hgood : Good L F) (hvalue : value F id = some j)
    (hj : F.lookup (L.journal id) = some ⟨journal j, []⟩) :
    Current L journal value id (some j) F := by
  refine ⟨hgood, hvalue, ?_⟩
  rintro _ ⟨⟩; exact hj

section

variable (h : Loads L journal value load)
include h

lemma Loads.settles (hgood : Good L d.files) (hvalue : value d.files = before)
    (hok : ∀ d', L.isName (L.journal id) → Current L journal value id (before id) d'.files →
      value d'.files = before → Settles L value before (f (before id)) d') :
    Settles L value before ((load id).bind f) d := by
  by_cases hid : L.isName (L.journal id)
  · have hload := h.runs hid hgood (P := fun F => Good L F ∧ value F = before)
      fun F hF hsame => ⟨hF, hsame.trans hvalue⟩
    refine Settles.bind hload hgood hvalue fun d' a hpost _ hvalue' => ?_
    obtain ⟨ha, hcurrent, -⟩ := hpost
    cases ha
    rw [hvalue] at hcurrent ⊢; exact hok d' hid hcurrent hvalue'
  · obtain ⟨e, he⟩ := h.invalid hid
    rw [he]; exact .done hgood hvalue

theorem Loads.found (hgood : Good L d.files) (hnone : ∃ r, f none = .done r)
    (hok : ∀ j d', value d.files id = some j → L.isName (L.journal id) →
      Current L journal value id (some j) d'.files → value d'.files = value d.files →
      Settles L value (value d.files) (f (some j)) d') :
    Settles L value (value d.files) ((load id).bind f) d := by
  refine h.settles hgood rfl fun d' hid hcurrent hvalue => ?_
  cases hv : value d.files id with
  | none =>
    obtain ⟨r, hr⟩ := hnone
    rw [hr]; exact .done hcurrent.good hvalue
  | some j => exact hok j d' hv hid (hv ▸ hcurrent) hvalue

/-- A load and a comparison at the end of an operation leave everything as it is. -/
lemma Loads.reload (hid : L.isName (L.journal id)) (hgood : Good L d.files)
    (hvalue : value d.files = after) (hf : ∀ v d', Good L d'.files ∧ value d'.files = after →
      Runs L.isName (Settled L value before after)
        (fun d'' _ => Good L d''.files ∧ value d''.files = after) (f v) d') :
    Runs L.isName (Settled L value before after)
      (fun d' _ => Good L d'.files ∧ value d'.files = after) ((load id).bind f) d := by
  refine (h.runs hid hgood fun F hF hsame => .inr ⟨hF, .inr (hsame.trans hvalue)⟩).bind
    (fun d' v hd' => ?_) fun _ _ hd' => nomatch hd'.1
  obtain ⟨-, hcurrent, hsame⟩ := hd'
  exact hf v d' ⟨hcurrent.good, hsame.trans hvalue⟩

lemma Loads.finish (hid : L.isName (L.journal id)) (hgood : Good L d.files) :
    ((load id).finish Files.exec d).2 = .ok (value d.files id) :=
  (h.runs hid hgood (P := fun _ => True) fun _ _ _ => trivial).finish.1

lemma Loads.linked {c : C} {n : ℕ} (hid : L.isName (L.journal id))
    (hfile : d.files.lookup (L.journal id) = some ⟨c, [n]⟩) :
    ((load id).finish Files.exec d).2 =
      .error (.invalid "journal file ownership boundary is invalid") := by
  obtain ⟨f, hf⟩ := h.reads hid
  rw [hf]
  have hload : Runs L.isName (fun _ => True)
      (fun _ r => r = .error (.invalid "journal file ownership boundary is invalid"))
      ((readPrivateFile (L.journal id) "journal").bind f) d := by
    refine (readPrivateFile_linked hfile).bind (fun _ _ h => nomatch h) fun _ _ h => ?_
    rw [Except.error.inj h]; rfl
  exact hload.finish

end

theorem Reads.remove (h : Reads L journal value) {label : String} {j : J}
    (hcurrent : Current L journal value id (some j) d.files) (hvalue : value d.files = before)
    (hname : L.isName (L.journal id)) (hname' : L.isName (L.decision id))
    {g : Option C → Program T C Unit} (hnone : g none = unlinkSync (L.journal id))
    (hsome : ∀ c, g (some c) = (unlinkSync (L.decision id)).bind fun _ => unlinkSync (L.journal id)) :
    Settles L value before ((readPrivateFile (L.decision id) label).bind g) d := by
  refine Settles.bind (readPrivateFile_runs hcurrent.good.decision_whole) hcurrent.good hvalue
    fun d1 decision hd1 _ _ => ?_
  obtain ⟨rfl, hdecision⟩ := hd1
  cases hdecision
  have hfile := hcurrent.file j rfl
  cases hd : d1.files.lookup (L.decision id) with
  | none => exact hnone ▸ h.remove_undecided hcurrent.good hvalue hname hfile hd
  | some f =>
    exact hsome f.content ▸
      h.remove_decided hcurrent.good hvalue hname hname' hfile hcurrent.value hd

end Loads

/-- An operation runs to its end, or is cut after a number of its calls. -/
inductive Act (Op : Type) where
  | complete (op : Op)
  | crash (op : Op) (calls : ℕ)

def step (program : Op → Program T C Unit) (d : Files T C) : Act Op → Option (Files T C)
  | .complete op => some ((program op).finish Files.exec d).1
  | .crash op calls => some ((program op).after Files.exec calls d).1

/-- The directory after the program is cut. -/
def crashed (t : Program T C Unit) (calls : ℕ) (d : Files T C) : Files T C :=
  (t.after Files.exec calls d).1

/-- A load returns what it would have returned before the program or after it, and a listing
succeeds. -/
def Survives (load : Program T C α) (list : Program T C β) (t : Program T C Unit) (calls : ℕ)
    (d : Files T C) : Prop :=
  (∃ v, (load.finish Files.exec (crashed t calls d)).2 = .ok v ∧
    ((load.finish Files.exec d).2 = .ok v ∨
      (load.finish Files.exec (t.finish Files.exec d).1).2 = .ok v)) ∧
  ∃ listed, (list.finish Files.exec (crashed t calls d)).2 = .ok listed

/-- A directory in good order, in which temporary files have names of the store. -/
structure Sound (L : Layout T C) (d : Files T C) : Prop where
  good : Good L d.files
  loose : ∀ e ∈ d.loose, L.isName e.1

/-- The file that a name in the directory belongs to. -/
def target : Entry T → T
  | .file x => x
  | .temporary x _ => x

lemma Sound.entries {L : Layout T C} {d : Files T C} (h : Sound L d) :
    ∀ e ∈ d.entries, L.isName (target e) := by
  intro e he
  rcases mem_append.mp he with he | he
  · obtain ⟨⟨x, f⟩, hx, he⟩ := mem_flatMap.mp he
    have hname := h.good.names x f (AList.mem_lookup_iff.mpr hx)
    rcases mem_cons.mp he with rfl | he
    · exact hname
    · obtain ⟨n, -, rfl⟩ := mem_map.mp he; exact hname
  · obtain ⟨⟨x, n⟩, hx, rfl⟩ := mem_map.mp he; exact h.loose _ hx

lemma dot_notMem {p : Char → Bool} {cs : List Char} (hp : p '.' = false)
    (h : cs.all p) : '.' ∉ cs := by
  intro hdot
  rw [all_eq_true.mp h '.' hdot] at hp; cases hp

section Crash

variable {L : Layout T C} {value : Slots T C → V} {before : V} {d : Files T C}
  {t : Program T C Unit}

lemma Settles.complete (h : Settles L value before t d) (hd : Sound L d) :
    Sound L (t.finish Files.exec d).1 := by
  obtain ⟨after, h⟩ := h
  exact ⟨h.finish.1, h.finish_keeps (fun _ _ hkeep => hkeep.loose) hd.loose⟩

lemma Settles.crash (h : Settles L value before t d) (hd : Sound L d)
    (hv : value d.files = before) (calls : ℕ) (hwhole : ¬Torn L (crashed t calls d).files) :
    Sound L (crashed t calls d) ∧ (value (crashed t calls d).files = before ∨
      value (crashed t calls d).files = value (t.finish Files.exec d).1.files) := by
  obtain ⟨after, h⟩ := h
  have hstart : Settled L value before after d.files := .inr ⟨hd.good, .inl hv⟩
  have hsettled := h.after (I := fun d => Settled L value before after d.files)
    (fun _ _ hkeep => hkeep.files) hstart calls
  have hloose := h.after (fun _ _ hkeep => hkeep.loose) hd.loose calls
  obtain ⟨hgood, hvalue⟩ := hsettled.resolve_left hwhole
  rw [h.finish.2]; exact ⟨⟨hgood, hloose⟩, hvalue⟩

/-- A load that returns the journal of a directory in good order finds it after a crash. -/
theorem Settles.survives {load : Program T C α} {list : Program T C β} {part : V → α}
    (h : Settles L value (value d.files) t d) (hd : Sound L d) (calls : ℕ)
    (hwhole : ¬Torn L (crashed t calls d).files)
    (hload : ∀ d, Sound L d → (load.finish Files.exec d).2 = .ok (part (value d.files)))
    (hlist : ∀ d, Sound L d → ∃ listed, (list.finish Files.exec d).2 = .ok listed) :
    Survives load list t calls d := by
  obtain ⟨hsound, hvalue⟩ := h.crash hd rfl calls hwhole
  refine ⟨⟨_, hload _ hsound, ?_⟩, hlist _ hsound⟩
  rcases hvalue with hvalue | hvalue
  · rw [hvalue]; exact .inl (hload d hd)
  · rw [hvalue]; exact .inr (hload _ (h.complete hd))

end Crash

/-- A step that is not cut between the link and the unlink of a publication. -/
def Whole (L : Layout T C) (program : Op → Program T C Unit) (fits : Files T C → Op → Prop)
    (d : Files T C) : Act Op → Prop
  | .complete op => fits d op
  | .crash op calls => fits d op ∧ ¬Torn L (crashed (program op) calls d).files

section Run

variable {L : Layout T C} {value : Slots T C → V} {program : Op → Program T C Unit}
  {fits : Files T C → Op → Prop}

theorem Sound.step
    (hsettles : ∀ d op, Good L d.files → fits d op → Settles L value (value d.files) (program op) d)
    {d d' : Files T C} {act : Act Op} (h : Sound L d) (hwhole : Whole L program fits d act)
    (hstep : step program d act = some d') : Sound L d' := by
  cases act with
  | complete op => cases hstep; exact (hsettles d op h.good hwhole).complete h
  | crash op calls =>
    cases hstep; exact ((hsettles d op h.good hwhole.1).crash h rfl calls hwhole.2).1

lemma survives_of_run {load : Program T C α} {list : Program T C β} (part : V → α)
    (hsettles : ∀ d op, Good L d.files → fits d op → Settles L value (value d.files) (program op) d)
    (hload : ∀ d, Sound L d → (load.finish Files.exec d).2 = .ok (part (value d.files)))
    (hlist : ∀ d, Sound L d → ∃ listed, (list.finish Files.exec d).2 = .ok listed)
    {acts : List (Act Op)} {d : Files T C}
    (hacts : Runs.Along (JournalCrash.step program) (Whole L program fits) Files.empty acts)
    (hrun : Runs.run (JournalCrash.step program) Files.empty acts = some d) {op : Op} {calls : ℕ}
    (hcrash : Whole L program fits d (.crash op calls)) :
    Survives load list (program op) calls d := by
  have hempty : Sound L (Files.empty : Files T C) :=
    ⟨Good.empty, nofun⟩
  have hsound : Sound L d :=
    hacts.invariant hrun (fun _ _ _ hstep hwhole h => h.step hsettles hwhole hstep) hempty
  exact (hsettles d op hsound.good hcrash.1).survives hsound calls hcrash.2 hload hlist

end Run

end NemoClaw.JournalCrash
