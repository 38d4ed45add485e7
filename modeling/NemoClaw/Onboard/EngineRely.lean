import NemoClaw.Lib.Runs
import NemoClaw.Onboard.EngineCalls

/- Calls of the engine lifecycle side by side.

Any number of calls of `executePersistedEngineLifecycle`, by any number of processes,
interleave request by request, and a process can stop for good between any two of its
own. `World` is the store and how far each call has come.

A lease names the process that holds it and an identity that no other call draws, so
what is in a file says whose it is. `Rely` is what a call relies on while others take
their steps, `Guar` what its own steps leave to the others; `Does` joins the two for a
part of a call, with the rules that its proofs use. The recovery marker is the gate of
the lease: only the live call that has it removes a lease of a dead owner.
-/
namespace NemoClaw.EngineLifecycle

open Js CallTree PrivateFiles

/-! ## Calls -/

/-- The calls of `executePersistedEngineLifecycle`: who makes each of them, and with what.
No two calls draw the same identity. -/
structure Executions (A V : Type) where
  caller : A → Caller
  input : A → Input
  mutate : A → Mutation V
  unique : ∀ a b m n, (caller a).ids m = (caller b).ids n → a = b

/-- How far a call has come: before `acquireMutationExecution` returned, or with the lease
that it returned. -/
inductive Stage (V : Type) where
  | entering (t : Program (Record × Lease))
  | inside (lease : Lease) (t : Program (Completion V))

/-- The calls; `held` are the leases that were returned and that their owners did not
remove since. -/
structure World (A V : Type) where
  store : Store
  stage : A → Stage V
  held : A → Option Lease

def Request.releases : Request → Bool
  | .file (.unlink (.inTransaction _ .lease)) => true
  | .file (.rename (.inTransaction _ .lease) _ _) => true
  | _ => false

inductive Event (A : Type) where
  | call (a : A)
  | crash (owner : Owner)

section

variable {A V : Type} (calls : Executions A V) (env : Environment)

def Executions.stageOf (a : A) : Program (Record × Lease) → Stage V
  | .done (.ok (authorized, lease)) =>
    .inside lease (insideExecution (calls.input a) (calls.mutate a) authorized lease)
  | t => .entering t

def Stage.lease : Stage V → Option Lease
  | entering _ => none
  | inside lease _ => some lease

/-- The next call of the file system. -/
def Stage.request : Stage V → Option Request
  | entering (.call q _) | inside _ (.call q _) => some q
  | entering (.done _) | inside _ (.done _) => none

/-- The call makes its next request. -/
def Executions.take [DecidableEq A] (w : World A V) (a : A) : Option (World A V) :=
  match w.stage a with
  | .entering (.call q k) =>
    let stage := calls.stageOf a (k (w.store.exec env q).2)
    some
      { store := (w.store.exec env q).1
        stage := Function.update w.stage a stage
        held := Function.update w.held a stage.lease }
  | .inside lease (.call q k) =>
    some
      { store := (w.store.exec env q).1
        stage := Function.update w.stage a (.inside lease (k (w.store.exec env q).2))
        held := if q.releases then Function.update w.held a none else w.held }
  | .entering (.done _) | .inside _ (.done _) => none

def Executions.step [DecidableEq A] (w : World A V) : Event A → Option (World A V)
  | .call a => if w.store.alive (calls.caller a).owner then calls.take env w a else none
  | .crash owner =>
    some { w with store := { w.store with alive := Function.update w.store.alive owner false } }

def Executions.program (a : A) : Stage V → Program (Completion V)
  | .entering t => t >>= fun entered =>
    insideExecution (calls.input a) (calls.mutate a) entered.1 entered.2
  | .inside _ t => t

/-- The calls are about to be made. -/
def Executions.start (s : Store) : World A V where
  store := s
  stage := fun a => calls.stageOf a (enterExecution (calls.caller a) (calls.input a))
  held := fun _ => none

def Executions.Live (a : A) (s : Store) : Prop := s.alive (calls.caller a).owner

/-- The record is the lease or a recovery marker of the call. -/
def Executions.Made (a : A) (m : Lease) : Prop :=
  ∃ n ∈ List.range (maxAttempts + 1), m = (calls.caller a).leaseFor m.transactionId n

/-- A live process is inside the call, with the lease of the transaction. -/
def Executions.Holds (w : World A V) (t : String) (a : A) : Prop :=
  calls.Live a w.store ∧ ∃ lease ∈ w.held a, lease.transactionId = t

def Executions.MarkerDead (a : A) (s : Store) : Request → Prop
  | .file (.unlink (.inTransaction t .recovery)) =>
    ∀ c ∈ s.contents (.inTransaction t .recovery), ∀ m, c = .lease m →
      s.alive m.owner = false ∨ calls.Made a m
  | _ => True

def Executions.MarkerKept (w : World A V) : Event A → Prop
  | .call a => ∀ q ∈ (w.stage a).request, calls.MarkerDead a w.store q
  | .crash _ => True

instance (a : A) (m : Lease) : Decidable (calls.Made a m) :=
  inferInstanceAs (Decidable (∃ n ∈ List.range (maxAttempts + 1), _))

instance (a : A) (s : Store) : (c : Content) →
    Decidable (∀ m, c = .lease m → s.alive m.owner = false ∨ calls.Made a m)
  | .lease m => decidable_of_iff (s.alive m.owner = false ∨ calls.Made a m)
      ⟨fun h _ hm => Content.lease.inj hm ▸ h, fun h => h m rfl⟩
  | .record _ | .receipt _ | .other _ => isTrue fun _ h => Content.noConfusion h

instance (a : A) (s : Store) : (q : Request) → Decidable (calls.MarkerDead a s q)
  | .file (.unlink (.inTransaction t .recovery)) => inferInstanceAs (Decidable
      (∀ c ∈ s.contents (.inTransaction t .recovery), ∀ m, c = .lease m →
        s.alive m.owner = false ∨ calls.Made a m))
  | .file (.unlink (.inTransaction _ .lease)) | .file (.unlink (.inTransaction _ (.phase _)))
  | .file (.unlink (.tombstone _)) | .file (.read _) | .file (.openTemporary _)
  | .file (.write _ _ _) | .file (.link _ _ _) | .file (.unlinkTemporary _ _)
  | .file (.rename _ _ _) | .file .readdir | .changed | .lstat _ | .mkdir _ | .readdir _
  | .rmdir _ | .readRoot | .isAlive _ | .loadAuthority | .capture _ => isTrue trivial

instance (w : World A V) : (event : Event A) → Decidable (calls.MarkerKept w event)
  | .call a => inferInstanceAs (Decidable (∀ q ∈ (w.stage a).request, calls.MarkerDead a w.store q))
  | .crash _ => isTrue trivial

/-! ## What a call relies on -/

/-- What a step of others leaves true for a call. -/
structure Executions.Rely (a : A) (s s' : Store) : Prop where
  dead : ∀ owner, s.alive owner = false → s'.alive owner = false
  phases : ∀ t phase c, s.contents (.inTransaction t (.phase phase)) = some c →
    s'.contents (.inTransaction t (.phase phase)) = some c
  held : calls.Live a s' → ∀ t slot m, calls.Made a m →
    s.contents (.inTransaction t slot) = some (.lease m) →
      s'.contents (.inTransaction t slot) = some (.lease m)
  gated : calls.Live a s' → ∀ t l m, calls.Made a m →
    s.contents (.inTransaction t .recovery) = some (.lease m) →
      s.contents (.inTransaction t .lease) = some (.lease l) → s.alive l.owner = false →
        s'.contents (.inTransaction t .lease) = some (.lease l)

/-- What a call leaves to the others. It gives a command to the engine only with its lease
in place. -/
structure Executions.Guar (a : A) (mine : Option Lease) (s s' : Store) : Prop where
  others : ∀ b, b ≠ a → calls.Rely b s s'
  phases : ∀ t phase c, s.contents (.inTransaction t (.phase phase)) = some c →
    s'.contents (.inTransaction t (.phase phase)) = some c
  alive : s'.alive = s.alive
  issued : s'.issued = s.issued ∨ ∃ lease ∈ mine,
    s.contents (.inTransaction lease.transactionId .lease) = some (.lease lease)

/-- A request is made by a live process, and removes no marker of another live call. -/
def Executions.May (a : A) (s : Store) (q : Request) : Prop :=
  calls.Live a s ∧ calls.MarkerDead a s q

/-- A part of the call, with what holds where it ends. -/
abbrev Executions.Does {α : Type} (a : A) (mine : Option Lease)
    (post : Store → Except Failure α → Prop) (t : Program α) (s : Store) : Prop :=
  Safe (Store.exec env) (calls.Rely a) (calls.May a) (calls.Guar a mine) post t s

end

section Rules

variable {A V : Type} {calls : Executions A V} {env : Environment} {a b : A}
  {s s' s'' : Store}

lemma Executions.Made.unique {m : Lease} (ha : calls.Made a m) (hb : calls.Made b m) :
    a = b := by
  obtain ⟨i, -, hi⟩ := ha
  obtain ⟨j, -, hj⟩ := hb
  have hids : ((calls.caller a).ids i).val = ((calls.caller b).ids j).val :=
    congrArg Lease.ownerId (hi.symm.trans hj)
  exact calls.unique a b i j (Subtype.ext hids)

lemma Executions.Made.owner {m : Lease} (h : calls.Made a m) :
    m.owner = (calls.caller a).owner := by
  obtain ⟨n, -, hn⟩ := h
  rw [hn]; rfl

lemma Executions.made_leaseFor {t : String} {n : ℕ} (hn : n ≤ maxAttempts) :
    calls.Made a ((calls.caller a).leaseFor t n) :=
  ⟨n, List.mem_range.mpr (by omega), rfl⟩

lemma Executions.Made.live {m : Lease} (h : calls.Made a m) (hlive : calls.Live a s)
    (hdead : s.alive m.owner = false) : False := by
  rw [h.owner, hlive] at hdead; cases hdead

lemma Executions.Live.before (h : ∀ owner, s.alive owner = false → s'.alive owner = false)
    (hlive : calls.Live a s') : calls.Live a s := by
  unfold Executions.Live at hlive ⊢
  cases hs : s.alive (calls.caller a).owner with
  | true => rfl
  | false => rw [h _ hs] at hlive; cases hlive

lemma Executions.Rely.refl : calls.Rely a s s :=
  ⟨fun _ h => h, fun _ _ _ h => h, fun _ _ _ _ _ h => h, fun _ _ _ _ _ _ h _ => h⟩

lemma Executions.Rely.trans (h : calls.Rely a s s') (h' : calls.Rely a s' s'') :
    calls.Rely a s s'' where
  dead := fun owner hdead => h'.dead owner (h.dead owner hdead)
  phases := fun t phase c hc => h'.phases t phase c (h.phases t phase c hc)
  held := fun hlive t slot m hmade hm =>
    h'.held hlive t slot m hmade (h.held (hlive.before h'.dead) t slot m hmade hm)
  gated := fun hlive t l m hmade hm hl hdead =>
    have hlive' : calls.Live a s' := hlive.before h'.dead
    h'.gated hlive t l m hmade (h.held hlive' t .recovery m hmade hm)
      (h.gated hlive' t l m hmade hm hl hdead) (h.dead l.owner hdead)

lemma Executions.Rely.of_grows (h : s.Grows s') : calls.Rely a s s' where
  dead := fun owner hdead => by rw [h.alive, hdead]
  phases := fun _ _ _ hc => h.contents _ _ hc
  held := fun _ _ _ _ _ hm => h.contents _ _ hm
  gated := fun _ _ _ _ _ _ hl _ => h.contents _ _ hl

lemma Executions.Guar.of_grows {mine : Option Lease} (h : s.Grows s') :
    calls.Guar a mine s s' :=
  ⟨fun _ _ => .of_grows h, fun _ _ _ hc => h.contents _ _ hc, h.alive, .inl h.issued⟩

/-- What others do leaves it true. -/
def Executions.Stable (calls : Executions A V) (a : A) (P : Store → Prop) : Prop :=
  ∀ s s', calls.Rely a s s' → P s → P s'

lemma Executions.Stable.and {P Q : Store → Prop} (hP : calls.Stable a P)
    (hQ : calls.Stable a Q) : calls.Stable a fun s => P s ∧ Q s :=
  fun s s' h hs => ⟨hP s s' h hs.1, hQ s s' h hs.2⟩

lemma Executions.Stable.true : calls.Stable a fun _ => True := fun _ _ _ _ => trivial

lemma Executions.Stable.dead (owner : Owner) :
    calls.Stable a fun s => s.alive owner = false := fun _ _ h hs => h.dead owner hs

/-- As long as the process of the call lives, its record is in the file. -/
def Executions.Mine (calls : Executions A V) (a : A) (slot : Slot) (m : Lease) (s : Store) : Prop :=
  calls.Live a s → s.contents (.inTransaction m.transactionId slot) = some (.lease m)

lemma Executions.Stable.mine {slot : Slot} {m : Lease} (hm : calls.Made a m) :
    calls.Stable a (calls.Mine a slot m) :=
  fun _ _ h hs hlive => h.held hlive _ slot m hm (hs (hlive.before h.dead))

/-- Under the own marker, a lease whose owner is dead. -/
def Executions.Abandoned (calls : Executions A V) (a : A) (marker l : Lease) (s : Store) : Prop :=
  calls.Live a s → s.contents (.inTransaction marker.transactionId .lease) = some (.lease l)

lemma Executions.Stable.abandoned {marker l : Lease} (hm : calls.Made a marker) :
    calls.Stable a fun s => (calls.Mine a .recovery marker s ∧ s.alive l.owner = false) ∧
      calls.Abandoned a marker l s := by
  intro s s' h hs
  obtain ⟨⟨hmarker, hdead⟩, hl⟩ := hs
  refine ⟨⟨Executions.Stable.mine hm s s' h hmarker, h.dead _ hdead⟩, fun hlive => ?_⟩
  have hlive' : calls.Live a s := hlive.before h.dead
  exact h.gated hlive _ l marker hm (hmarker hlive') (hl hlive') hdead

def Recorded (t : String) (record : Record) (s : Store) : Prop :=
  s.contents (.inTransaction t (.phase .completed)) = some (.record record)

lemma Executions.Stable.recorded (t : String) (record : Record) :
    calls.Stable a (Recorded t record) := fun _ _ h hs => h.phases _ _ _ hs

variable {α β : Type} {mine : Option Lease} {P : Store → Prop}

namespace Executions.Does

lemma done {r : Except Failure α} {post : Store → Except Failure α → Prop}
    (hstable : calls.Stable a fun s => post s r) (h : post s r) :
    calls.Does env a mine post (.done r) s := fun s' hs => hstable s s' hs h

lemma seq {t : Program α} {f : α → Program β} {post : Store → Except Failure α → Prop}
    {post' : Store → Except Failure β → Prop} (h : calls.Does env a mine post t s)
    (hok : ∀ s x, post s (.ok x) → calls.Does env a mine post' (f x) s)
    (herror : ∀ s e, post s (.error e) → post' s (.error e)) :
    calls.Does env a mine post' (t >>= f) s := Safe.bind (fun _ => .refl) h hok herror

lemma ask {q : Request} {post : Store → Except Failure q.Answer → Prop}
    (h : ∀ s', calls.Rely a s s' → calls.May a s' q →
      calls.Guar a mine s' (s'.exec env q).1 ∧
        post (s'.exec env q).1 (.ok (s'.exec env q).2))
    (hstable : ∀ x, calls.Stable a fun s => post s (.ok x)) :
    calls.Does env a mine post (Tree.ask q) s := by
  intro s' hs hmay
  obtain ⟨hguar, hpost⟩ := h s' hs hmay; exact ⟨hguar, done (hstable _) hpost⟩

lemma quiet {t : Program α} (ht : QuietProgram t) (hP : calls.Stable a P) (hs : P s) :
    calls.Does env a mine (fun s _ => P s) t s :=
  Safe.of_calls ht hP
    (fun _ _ hq _ hs => ⟨.of_grows (Store.exec_grows hq), hP _ _ (.of_grows (Store.exec_grows hq)) hs⟩)
    hs

lemma lift {r : Except Failure α} {f : α → Program β}
    {post : Store → Except Failure β → Prop}
    (hok : ∀ x, r = .ok x → calls.Does env a mine post (f x) s)
    (herror : ∀ e, r = .error e → calls.Does env a mine post (.done (.error e)) s) :
    calls.Does env a mine post (Tree.lift r >>= f) s := by
  cases r with
  | ok x => exact hok x rfl
  | error e => exact herror e rfl

/-- An error, where only what holds on success matters. -/
lemma failed {e : Failure} {Q : Store → α → Prop} (hP : calls.Stable a P) (hs : P s) :
    calls.Does env a mine (fun s r => P s ∧ ∀ x, r = .ok x → Q s x) (.done (.error e)) s :=
  done (fun s s' h hs => ⟨hP s s' h hs.1, nofun⟩) ⟨hs, nofun⟩

end Executions.Does

end Rules

end NemoClaw.EngineLifecycle
