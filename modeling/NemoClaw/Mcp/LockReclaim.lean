import NemoClaw.Lib.Runs
import NemoClaw.Mcp.LifecycleLock

/- The removal of a lock file that was judged before it is taken.

A call that reclaims a lock file renames it away first and looks at it then. If it is not
the generation that was judged, it is linked back, unless somebody has taken the path
meanwhile; then it stays in quarantine. Each file-system call is one step, the steps of
any number of calls interleave, a call can stop for good between any two steps, and a
file-system call can fail, also after it has taken effect.

Correspondence (state/mcp-lifecycle-lock-storage.ts ↔ Lean): `create`, `link` and `cleanup`
are `writeMcpLifecycleLockCandidateAndLink`; `observe` is the look at the lock file that a
caller has had before; `rename`, `inspect` and `remove` are
`reclaimStaleMcpLifecycleLockGeneration`, `restore` and `drop`
`restoreClaimedMcpLifecycleLockGeneration`. `safelyReleaseMcpLifecycleLock` is an `observe`
that goes on only with the caller's own token. The synchronous twins take the same steps.
A file that can be opened can be read. The numbers of the generations that a call has
seen and moved are kept with it; the code compares what it observed.

What is proved: a call deletes only the generation that was judged, and every generation
that was once at the lock path is there, or in quarantine, or was deleted so.
-/
namespace NemoClaw.LockReclaim

open Js Runs NemoClaw.LifecycleLock List Option Function

structure LockObservation where
  owner : Option Owner
  mtimeMs : ℕ
  dev : ℕ
  ino : ℕ
  reclaimable : Bool
  deriving DecidableEq

/-- A lock file. Its inode can be used again for another one when it is gone. -/
structure Generation where
  text : LockText
  dev : ℕ
  ino : ℕ

/-- `readMcpLifecycleLockObservation`. -/
def Generation.observe (g : Generation) : LockObservation where
  owner := g.text.owner
  mtimeMs := g.text.mtimeMs
  dev := g.dev
  ino := g.ino
  reclaimable := g.text.reclaimable

def claimedExpectedGeneration (expected : LockObservation) (claimed : Option LockObservation) :
    Bool :=
  match expected.owner with
  | none => claimed.any fun claimed =>
      claimed.owner.isNone && claimed.dev == expected.dev && claimed.ino == expected.ino
  | some owner => claimed.any fun claimed => claimed.owner.any (·.token = owner.token)

abbrev CallId := ℕ

/-- The lock path, and the paths that a call makes with a random identifier. -/
inductive Path where
  | target
  | candidate (call : CallId)
  | quarantine (call : CallId)
  deriving DecidableEq

inductive Errno where
  | noEntry
  | exists
  | other
  deriving DecidableEq

/-- How a file-system call ends. -/
inductive Reply where
  | done
  | failed (took : Bool) (code : Errno)
  deriving DecidableEq

inductive Result where
  | returned (value : Bool)
  | threw
  deriving DecidableEq

/-- What became of the file that a call moved, with the generation that was judged. -/
inductive Fate where
  | untouched
  | kept (seen moved : ℕ)
  | restored (seen moved : ℕ)
  | removed (seen moved : ℕ)
  deriving DecidableEq

/-- Where a call is. -/
inductive Point where
  | idle
  | candidate
  | cleanup
  | observed (expected : LockObservation) (seen : ℕ)
  | renamed (expected : LockObservation) (seen moved : ℕ)
  | removing (seen moved : ℕ)
  | restoring (seen moved : ℕ) (threw : Bool)
  | dropping (seen moved : ℕ) (threw : Bool)
  | ended (fate : Fate) (result : Result)
  deriving DecidableEq

structure World where
  gens : List Generation
  names : Path → Option ℕ
  calls : CallId → Point

/-- The random tokens, no two of them alike, and the lock file that is there at the start. -/
structure Site where
  token : CallId → String
  token_injective : Function.Injective token
  initial : Option Generation
  fresh : ∀ g ∈ initial, ∀ owner ∈ g.text.owner, ∀ call, owner.token ≠ token call

def World.init (site : Site) : World where
  gens := site.initial.toList
  names := fun path => if path = .target then site.initial.map fun _ => 0 else none
  calls := fun _ => .idle

/-- What a step does to the files. -/
inductive Effect where
  | nothing
  | write (g : Generation)
  | dropCandidate
  | link (g : ℕ)
  | move (g : ℕ)
  | dropQuarantine

def Effect.names (call : CallId) (gens : List Generation) (names : Path → Option ℕ) :
    Effect → Path → Option ℕ
  | nothing => names
  | write _ => Function.update names (.candidate call) (some gens.length)
  | dropCandidate => Function.update names (.candidate call) none
  | link g => Function.update names .target (some g)
  | move g => Function.update (Function.update names .target none) (.quarantine call) (some g)
  | dropQuarantine => Function.update names (.quarantine call) none

def Effect.gens (gens : List Generation) : Effect → List Generation
  | write g => gens ++ [g]
  | _ => gens

def World.after (w : World) (call : CallId) (next : Effect × Point) : World where
  gens := next.1.gens w.gens
  names := next.1.names call w.gens w.names
  calls := Function.update w.calls call next.2

/-- An owner record that is read back as it was written. -/
def WellFormed (owner : Owner) : Prop :=
  owner.version = lockSchemaVersion ∧ 0 < owner.pid ∧ owner.pid ≤ maxSafeInteger ∧
    owner.token ≠ "" ∧ ∀ token ∈ owner.shieldsTakeoverToken, isLowerHexOf 32 token

instance (owner : Owner) : Decidable (WellFormed owner) :=
  inferInstanceAs (Decidable (_ ∧ _ ∧ _ ∧ _ ∧ _))

inductive Act where
  | create (owner : Owner) (mtimeMs dev ino : ℕ)
  | link (reply : Reply)
  | cleanup (reply : Reply)
  | observe
  | rename (reply : Reply)
  /-- the look at the quarantine, and what `assertAfterClaim` says -/
  | inspect (reply : Reply) (asserts : Bool)
  | remove (reply : Reply)
  | restore (reply : Reply)
  | drop (reply : Reply)

/-! ## Steps -/

section Steps

variable (w : World) (call : CallId)

/-- The candidate is linked where the path is free. -/
def publishCandidate : Effect × Point :=
  match w.names .target, w.names (.candidate call) with
  | none, some g => (.link g, .cleanup)
  | _, _ => (.nothing, .cleanup)

def linkCandidate : Reply → Effect × Point
  | .done | .failed true _ => publishCandidate w call
  | .failed false _ => (.nothing, .cleanup)

def removeCandidate : Reply → Effect × Point
  | .done | .failed true _ => (.dropCandidate, .ended .untouched (.returned true))
  | .failed false _ => (.nothing, .ended .untouched (.returned true))

def observeTarget : Effect × Point :=
  match w.names .target with
  | none => (.nothing, .ended .untouched (.returned false))
  | some seen =>
    match w.gens[seen]? with
    | none => (.nothing, .ended .untouched (.returned false))
    | some g => (.nothing, .observed g.observe seen)

/-- `ENOENT` means that the file is gone already. -/
def renameError (code : Errno) : Result :=
  if code = .noEntry then .returned false else .threw

def renameTarget (expected : LockObservation) (seen : ℕ) : Reply → Effect × Point
  | .done =>
    match w.names .target with
    | some moved => (.move moved, .renamed expected seen moved)
    | none => (.nothing, .ended .untouched (.returned false))
  | .failed took code =>
    match took, w.names .target with
    | true, some moved => (.move moved, .ended (.kept seen moved) (renameError code))
    | _, _ => (.nothing, .ended .untouched (renameError code))

def observeQuarantine : Option LockObservation :=
  ((w.names (.quarantine call)).bind (w.gens[·]?)).map Generation.observe

def judgeClaimed (expected : LockObservation) (seen moved : ℕ) (asserts : Bool)
    (claimed : Option LockObservation) : Effect × Point :=
  if claimedExpectedGeneration expected claimed then
    if asserts then (.nothing, .removing seen moved) else (.nothing, .restoring seen moved true)
  else (.nothing, .restoring seen moved false)

def inspectClaimed (expected : LockObservation) (seen moved : ℕ) (asserts : Bool) :
    Reply → Effect × Point
  | .done => judgeClaimed expected seen moved asserts (observeQuarantine w call)
  | .failed _ .noEntry => judgeClaimed expected seen moved asserts none
  | .failed _ _ => (.nothing, .ended (.kept seen moved) .threw)

def removeQuarantine (seen moved : ℕ) : Reply → Effect × Point
  | .done => (.dropQuarantine, .ended (.removed seen moved) (.returned true))
  | .failed true _ => (.dropQuarantine, .ended (.removed seen moved) .threw)
  | .failed false _ => (.nothing, .ended (.kept seen moved) .threw)

/-- What the reclaim answers once the file is put back, or could not be. -/
def restoreResult (threw : Bool) : Result := if threw then .threw else .returned false

/-- Another error than `EEXIST` is thrown. -/
def restoreError (threw : Bool) (code : Errno) : Result :=
  if code = .exists then restoreResult threw else .threw

/-- The file in quarantine can be linked at the lock path; a directory cannot. -/
def linkable : Option ℕ :=
  match w.names .target, w.names (.quarantine call) with
  | none, some g =>
    if (w.gens[g]?).any fun gen => gen.text.kind = .directory then none else some g
  | _, _ => none

def restoreLink (seen moved : ℕ) (threw : Bool) : Reply → Effect × Point
  | .done =>
    match linkable w call with
    | some g => (.link g, .dropping seen moved threw)
    | none =>
      (.nothing, .ended (.kept seen moved)
        (if (w.names .target).isSome then restoreResult threw else .threw))
  | .failed took code =>
    match took, linkable w call with
    | true, some g => (.link g, .ended (.kept seen moved) (restoreError threw code))
    | _, _ => (.nothing, .ended (.kept seen moved) (restoreError threw code))

def dropQuarantine (seen moved : ℕ) (threw : Bool) : Reply → Effect × Point
  | .done => (.dropQuarantine, .ended (.restored seen moved) (restoreResult threw))
  | .failed true code => (.dropQuarantine, .ended (.restored seen moved) (restoreError threw code))
  | .failed false code => (.nothing, .ended (.kept seen moved) (restoreError threw code))

def next (site : Site) : Act → Option (Effect × Point)
  | .create owner mtimeMs dev ino =>
    match w.calls call with
    | .idle =>
      if owner.token = site.token call ∧ WellFormed owner then
        some (.write ⟨⟨some owner.toJson, .regular, mtimeMs⟩, dev, ino⟩, .candidate)
      else none
    | _ => none
  | .link reply =>
    match w.calls call with
    | .candidate => some (linkCandidate w call reply)
    | _ => none
  | .cleanup reply =>
    match w.calls call with
    | .cleanup => some (removeCandidate reply)
    | _ => none
  | .observe =>
    match w.calls call with
    | .idle => some (observeTarget w)
    | _ => none
  | .rename reply =>
    match w.calls call with
    | .observed expected seen => some (renameTarget w expected seen reply)
    | _ => none
  | .inspect reply asserts =>
    match w.calls call with
    | .renamed expected seen moved => some (inspectClaimed w call expected seen moved asserts reply)
    | _ => none
  | .remove reply =>
    match w.calls call with
    | .removing seen moved => some (removeQuarantine seen moved reply)
    | _ => none
  | .restore reply =>
    match w.calls call with
    | .restoring seen moved threw => some (restoreLink w call seen moved threw reply)
    | _ => none
  | .drop reply =>
    match w.calls call with
    | .dropping seen moved threw => some (dropQuarantine seen moved threw reply)
    | _ => none

end Steps

def step (site : Site) (w : World) (action : CallId × Act) : Option World :=
  (next w action.1 site action.2).map (w.after action.1)

lemma readNullable_ofString? (s : Option String) :
    readNullable (some (Json.ofString? s)) = some s := by
  cases s <;> rfl

lemma readOptional_ofString? (s : Option String) :
    readOptional (some (Json.ofString? s)) = some s := readNullable_ofString? s

lemma parseOwner_toJson {owner : Owner} (h : WellFormed owner) :
    parseOwner owner.toJson = some owner := by
  obtain ⟨version, sandboxName, pid, processIdentity, hostIdentity, pidNamespaceIdentity,
    shieldsTakeoverToken, token, acquiredAt⟩ := owner
  obtain ⟨hversion, hpid, hsafe, htoken, htakeover⟩ := h
  cases shieldsTakeoverToken with
  | none =>
    exact parse_guard rfl (parse_bind (readNat_ofNat version) (parse_guard hversion
      (parse_bind rfl (parse_bind (readSafeNat_ofNat hsafe) (parse_guard hpid
      (parse_bind (readNullable_ofString? _) (parse_bind (readOptional_ofString? _)
      (parse_bind (readOptional_ofString? _) (parse_bind rfl
      (parse_bind (readNonEmpty_str htoken) (parse_bind rfl rfl)))))))))))
  | some takeover =>
    have htaken : readTakeoverToken (some (.str takeover)) = some (some takeover) :=
      if_pos (htakeover takeover rfl)
    exact parse_guard rfl (parse_bind (readNat_ofNat version) (parse_guard hversion
      (parse_bind rfl (parse_bind (readSafeNat_ofNat hsafe) (parse_guard hpid
      (parse_bind (readNullable_ofString? _) (parse_bind (readOptional_ofString? _)
      (parse_bind (readOptional_ofString? _) (parse_bind htaken
      (parse_bind (readNonEmpty_str htoken) (parse_bind rfl rfl)))))))))))

/-- What a call relies on where it is: its file is in quarantine, and what it judged was
observed. -/
def PointOk (gens : List Generation) (quarantine : Option ℕ) : Point → Prop
  | .idle | .candidate | .cleanup => quarantine = none
  | .observed expected seen =>
    quarantine = none ∧ ∃ g, gens[seen]? = some g ∧ g.observe = expected
  | .renamed expected seen moved =>
    quarantine = some moved ∧ ∃ g, gens[seen]? = some g ∧ g.observe = expected
  | .removing seen moved => quarantine = some moved ∧ moved = seen
  | .restoring _ moved _ | .dropping _ moved _ => quarantine = some moved
  | .ended fate _ =>
    match fate with
    | .untouched | .restored _ _ => quarantine = none
    | .kept _ moved => quarantine = some moved
    | .removed seen moved => quarantine = none ∧ moved = seen

/-- An observation tells the generations apart. -/
def Distinct (gens : List Generation) : Prop :=
  ∀ (i j : ℕ) (gi gj : Generation), gens[i]? = some gi → gens[j]? = some gj →
    claimedExpectedGeneration gi.observe (some gj.observe) → i = j

structure Inv (site : Site) (w : World) : Prop where
  named : ∀ path g, w.names path = some g → g < w.gens.length
  points : ∀ call, PointOk w.gens (w.names (.quarantine call)) (w.calls call)
  distinct : Distinct w.gens
  fresh : ∀ call, w.calls call = .idle → ∀ g ∈ w.gens, ∀ owner ∈ g.text.owner,
    owner.token ≠ site.token call

lemma PointOk.mono {gens gens' : List Generation} (h : gens <+: gens') {quarantine : Option ℕ}
    {point : Point} (hok : PointOk gens quarantine point) : PointOk gens' quarantine point := by
  have hget : ∀ {i : ℕ} {g : Generation}, gens[i]? = some g → gens'[i]? = some g := by
    intro i g hi
    obtain ⟨rest, rfl⟩ := h
    rw [List.getElem?_append_left (List.getElem?_eq_some_iff.mp hi).1, hi]
  cases point with
  | observed expected seen | renamed expected seen moved =>
    obtain ⟨hq, g, hg, hobs⟩ := hok; exact ⟨hq, g, hget hg, hobs⟩
  | _ => exact hok

lemma claimed_of_owner {expected claimed : LockObservation} {owner : Owner}
    (howner : expected.owner = some owner)
    (h : claimedExpectedGeneration expected (some claimed)) :
    ∃ other, claimed.owner = some other ∧ other.token = owner.token := by
  unfold claimedExpectedGeneration at h
  rw [howner] at h
  cases hclaimed : claimed.owner with
  | none => simp [hclaimed] at h
  | some other => exact ⟨other, rfl, by simpa [hclaimed] using h⟩

lemma claimed_of_no_owner {expected claimed : LockObservation} (howner : expected.owner = none)
    (h : claimedExpectedGeneration expected (some claimed)) : claimed.owner = none := by
  unfold claimedExpectedGeneration at h
  rw [howner] at h
  cases hclaimed : claimed.owner with
  | none => rfl
  | some other => simp [hclaimed] at h

lemma getElem?_append_singleton {gens : List Generation} {g found : Generation} {k : ℕ}
    (h : (gens ++ [g])[k]? = some found) :
    gens[k]? = some found ∨ k = gens.length ∧ found = g := by
  rcases Nat.lt_or_ge k gens.length with hlt | hge
  · exact .inl (List.getElem?_append_left hlt ▸ h)
  rw [List.getElem?_append_right hge, List.getElem?_singleton] at h
  split at h
  · exact .inr ⟨by omega, (some.inj h).symm⟩
  · cases h

/-- A record with a new token looks like no file before it. -/
lemma Distinct.append {gens : List Generation} (h : Distinct gens) {g : Generation}
    {owner : Owner} (howner : g.text.owner = some owner)
    (hfresh : ∀ g' ∈ gens, ∀ other ∈ g'.text.owner, other.token ≠ owner.token) :
    Distinct (gens ++ [g]) := by
  intro i j gi gj hi hj hclaimed
  rcases getElem?_append_singleton hi with hold | ⟨rfl, rfl⟩ <;>
    rcases getElem?_append_singleton hj with hold' | ⟨rfl, rfl⟩
  · exact h i j gi gj hold hold' hclaimed
  · cases hgi : gi.observe.owner with
    | none =>
      have hnone : gj.text.owner = none := claimed_of_no_owner hgi hclaimed
      rw [howner] at hnone; cases hnone
    | some other =>
      obtain ⟨other', hother', htoken⟩ := claimed_of_owner hgi hclaimed
      obtain rfl : owner = other' := some.inj (howner.symm.trans hother')
      exact absurd htoken.symm (hfresh gi (mem_of_getElem? hold) other hgi)
  · obtain ⟨other, hother, htoken⟩ := claimed_of_owner howner hclaimed
    exact absurd htoken (hfresh gj (mem_of_getElem? hold') other hother)
  · rfl

lemma Inv.init (site : Site) : Inv site (World.init site) where
  named := by
    intro path g hg
    simp only [World.init] at hg ⊢
    split at hg
    · cases hinitial : site.initial with
      | none => simp [hinitial] at hg
      | some gen => simp [hinitial] at hg; simp [← hg]
    · cases hg
  points := fun call => by simp [World.init, PointOk]
  distinct := by
    intro i j gi gj hi hj _
    cases hinitial : site.initial with
    | none => simp [World.init, hinitial] at hi
    | some gen => simp [World.init, hinitial, List.getElem?_singleton] at hi hj; omega
  fresh := fun call _ g hg owner howner =>
    site.fresh g (by simpa [World.init] using hg) owner howner call

/-! ## What a step does -/

def Point.isDropping : Point → Bool
  | dropping _ _ _ => true
  | _ => false

/-- A call goes on, and not to a place where its quarantine is only a second name. -/
def Point.Plain (p : Point) : Prop := p ≠ .idle ∧ p.isDropping = false

/-- The steps of a call, by what they do to the files. -/
inductive Does (site : Site) (w : World) (call : CallId) : Effect × Point → Prop
  | still {p : Point} (hplain : p.Plain)
      (hok : PointOk w.gens (w.names (.quarantine call)) p) : Does site w call (.nothing, p)
  | write {g : Generation} {owner : Owner} (hidle : w.calls call = .idle)
      (howner : g.text.owner = some owner) (htoken : owner.token = site.token call) :
      Does site w call (.write g, .candidate)
  | publish {g : ℕ} (hfree : w.names .target = none)
      (hcandidate : w.names (.candidate call) = some g)
      (hquarantine : w.names (.quarantine call) = none) : Does site w call (.link g, .cleanup)
  | cleanup {result : Result} (hquarantine : w.names (.quarantine call) = none) :
      Does site w call (.dropCandidate, .ended .untouched result)
  | move {g : ℕ} {p : Point} (htarget : w.names .target = some g)
      (hquarantine : w.names (.quarantine call) = none) (hplain : p.Plain)
      (hok : PointOk w.gens (some g) p) : Does site w call (.move g, p)
  | relink {g : ℕ} {p : Point} (hfree : w.names .target = none)
      (hquarantine : w.names (.quarantine call) = some g) (hidle : p ≠ .idle)
      (hok : PointOk w.gens (some g) p) : Does site w call (.link g, p)
  | delete {g : ℕ} {result : Result} (hpoint : w.calls call = .removing g g)
      (hquarantine : w.names (.quarantine call) = some g) :
      Does site w call (.dropQuarantine, .ended (.removed g g) result)
  | drop {seen g : ℕ} {result : Result} (hdropping : (w.calls call).isDropping)
      (hquarantine : w.names (.quarantine call) = some g) :
      Does site w call (.dropQuarantine, .ended (.restored seen g) result)

section Does

variable {site : Site} {w : World} {call : CallId}

section

variable (hquarantine : w.names (.quarantine call) = none)
include hquarantine

lemma linkCandidate_does (reply : Reply) : Does site w call (linkCandidate w call reply) := by
  have hstill : Does site w call (.nothing, .cleanup) := .still ⟨by simp, rfl⟩ hquarantine
  have hpublish : Does site w call (publishCandidate w call) := by
    unfold publishCandidate
    split
    · next g hfree hcandidate => exact .publish hfree hcandidate hquarantine
    · exact hstill
  cases reply with
  | done => exact hpublish
  | failed took code => cases took <;> assumption

lemma removeCandidate_does (reply : Reply) : Does site w call (removeCandidate reply) := by
  have hstill : Does site w call (.nothing, .ended .untouched (.returned true)) :=
    .still ⟨by simp, rfl⟩ hquarantine
  cases reply with
  | done => exact .cleanup hquarantine
  | failed took code =>
    cases took with
    | false => exact hstill
    | true => exact .cleanup hquarantine

lemma observeTarget_does : Does site w call (observeTarget w) := by
  have huntouched : Does site w call (.nothing, .ended .untouched (.returned false)) :=
    .still ⟨by simp, rfl⟩ hquarantine
  unfold observeTarget
  split
  · exact huntouched
  · split
    · exact huntouched
    · next g hg => exact .still ⟨by simp, rfl⟩ ⟨hquarantine, g, hg, rfl⟩

end

lemma renameTarget_does {expected : LockObservation} {seen : ℕ}
    (hok : PointOk w.gens (w.names (.quarantine call)) (.observed expected seen)) (reply : Reply) :
    Does site w call (renameTarget w expected seen reply) := by
  obtain ⟨hquarantine, hseen⟩ := hok
  have huntouched : ∀ result, Does site w call (.nothing, .ended .untouched result) :=
    fun result => .still ⟨by simp, rfl⟩ hquarantine
  unfold renameTarget
  split
  · split
    · next moved htarget => exact .move htarget hquarantine ⟨by simp, rfl⟩ ⟨rfl, hseen⟩
    · exact huntouched _
  · split
    · next moved htarget => exact .move htarget hquarantine ⟨by simp, rfl⟩ rfl
    · exact huntouched _

variable {moved : ℕ}

lemma inspectClaimed_does (hdistinct : Distinct w.gens)
    (hnamed : ∀ path g, w.names path = some g → g < w.gens.length) {expected : LockObservation}
    {seen : ℕ} (hok : PointOk w.gens (w.names (.quarantine call)) (.renamed expected seen moved))
    (asserts : Bool) (reply : Reply) :
    Does site w call (inspectClaimed w call expected seen moved asserts reply) := by
  obtain ⟨hquarantine, g, hg, rfl⟩ := hok
  have hrestoring : ∀ threw, Does site w call (.nothing, .restoring seen moved threw) :=
    fun threw => .still ⟨by simp, rfl⟩ hquarantine
  unfold inspectClaimed
  split
  · unfold judgeClaimed
    split
    · next hclaimed =>
      -- what is in quarantine looks like what was observed, so it is the same generation
      have hlt := hnamed _ _ hquarantine
      have hobserve : observeQuarantine w call = some w.gens[moved].observe := by
        simp [observeQuarantine, hquarantine, List.getElem?_eq_getElem hlt]
      rw [hobserve] at hclaimed
      have hsame := hdistinct seen moved g _ hg (List.getElem?_eq_getElem hlt) hclaimed
      split
      · exact .still ⟨by simp, rfl⟩ ⟨hquarantine, hsame.symm⟩
      · exact hrestoring _
    · exact hrestoring _
  · have hnone : claimedExpectedGeneration g.observe none = false := by
      unfold claimedExpectedGeneration
      split <;> rfl
    rw [judgeClaimed, hnone]; exact hrestoring _
  · exact .still ⟨by simp, rfl⟩ hquarantine

lemma removeQuarantine_does {seen : ℕ} (hpoint : w.calls call = .removing seen moved)
    (hok : PointOk w.gens (w.names (.quarantine call)) (.removing seen moved)) (reply : Reply) :
    Does site w call (removeQuarantine seen moved reply) := by
  obtain ⟨hquarantine, rfl⟩ := hok
  unfold removeQuarantine
  split
  · exact .delete hpoint hquarantine
  · exact .delete hpoint hquarantine
  · exact .still ⟨by simp, rfl⟩ hquarantine

/-- What can be linked at the lock path is what is in quarantine, where the path is free. -/
lemma linkable_eq {g : ℕ} (hquarantine : w.names (.quarantine call) = some moved)
    (hg : linkable w call = some g) : w.names .target = none ∧ g = moved := by
  unfold linkable at hg
  rw [hquarantine] at hg
  split at hg
  · next g' hfree heq =>
    split at hg
    · cases hg
    · exact ⟨hfree, by rw [← some.inj hg, some.inj heq]⟩
  · cases hg

/-- The file is linked back where the path is free, or it stays in quarantine. -/
lemma restoreLink_eq (seen : ℕ) (threw : Bool)
    (hquarantine : w.names (.quarantine call) = some moved) (reply : Reply) :
    (w.names .target = none ∧
      (restoreLink w call seen moved threw reply = (.link moved, .dropping seen moved threw) ∨
        ∃ r, restoreLink w call seen moved threw reply =
          (.link moved, .ended (.kept seen moved) r))) ∨
    ∃ r, restoreLink w call seen moved threw reply = (.nothing, .ended (.kept seen moved) r) := by
  unfold restoreLink
  split
  · split
    · next g hg =>
      obtain ⟨hfree, rfl⟩ := linkable_eq hquarantine hg
      exact .inl ⟨hfree, .inl rfl⟩
    · exact .inr ⟨_, rfl⟩
  · split
    · next g hg =>
      obtain ⟨hfree, rfl⟩ := linkable_eq hquarantine hg
      exact .inl ⟨hfree, .inr ⟨_, rfl⟩⟩
    · exact .inr ⟨_, rfl⟩

lemma restoreLink_does {seen : ℕ} {threw : Bool}
    (hok : PointOk w.gens (w.names (.quarantine call)) (.restoring seen moved threw))
    (reply : Reply) : Does site w call (restoreLink w call seen moved threw reply) := by
  have hquarantine : w.names (.quarantine call) = some moved := hok
  rcases restoreLink_eq seen threw hquarantine reply with ⟨hfree, heq | ⟨r, heq⟩⟩ | ⟨r, heq⟩
  · exact heq ▸ .relink hfree hquarantine (by simp) rfl
  · exact heq ▸ .relink hfree hquarantine (by simp) rfl
  · exact heq ▸ .still ⟨by simp, rfl⟩ hquarantine

lemma dropQuarantine_does {seen : ℕ} {threw : Bool}
    (hpoint : w.calls call = .dropping seen moved threw)
    (hok : PointOk w.gens (w.names (.quarantine call)) (.dropping seen moved threw)) (reply : Reply) :
    Does site w call (dropQuarantine seen moved threw reply) := by
  have hdropping : (w.calls call).isDropping := by rw [hpoint]; rfl
  unfold dropQuarantine
  split
  · exact .drop hdropping hok
  · exact .drop hdropping hok
  · exact .still ⟨by simp, rfl⟩ hok

lemma next_does (h : Inv site w) {act : Act} {result : Effect × Point}
    (hnext : next w call site act = some result) :
    Does site w call result ∧ ∀ fate r, w.calls call ≠ .ended fate r := by
  have hok := h.points call
  cases act with
  | create owner mtimeMs dev ino =>
    simp only [next] at hnext
    split at hnext
    · next hpoint =>
      split at hnext
      · next hguard =>
        cases hnext
        have howner : (LockText.owner ⟨some owner.toJson, .regular, mtimeMs⟩) = some owner :=
          parseOwner_toJson hguard.2
        exact ⟨.write hpoint howner hguard.1, by simp [hpoint]⟩
      · cases hnext
    · cases hnext
  | link reply =>
    simp only [next] at hnext
    split at hnext
    · next hpoint =>
      cases hnext
      rw [hpoint] at hok; exact ⟨linkCandidate_does hok reply, by simp [hpoint]⟩
    · cases hnext
  | cleanup reply =>
    simp only [next] at hnext
    split at hnext
    · next hpoint =>
      cases hnext
      rw [hpoint] at hok; exact ⟨removeCandidate_does hok reply, by simp [hpoint]⟩
    · cases hnext
  | observe =>
    simp only [next] at hnext
    split at hnext
    · next hpoint =>
      cases hnext
      rw [hpoint] at hok; exact ⟨observeTarget_does hok, by simp [hpoint]⟩
    · cases hnext
  | rename reply =>
    simp only [next] at hnext
    split at hnext
    · next expected seen hpoint =>
      cases hnext
      rw [hpoint] at hok; exact ⟨renameTarget_does hok reply, by simp [hpoint]⟩
    · cases hnext
  | inspect reply asserts =>
    simp only [next] at hnext
    split at hnext
    · next expected seen moved hpoint =>
      cases hnext
      rw [hpoint] at hok
      exact ⟨inspectClaimed_does h.distinct h.named hok asserts reply, by simp [hpoint]⟩
    · cases hnext
  | remove reply =>
    simp only [next] at hnext
    split at hnext
    · next seen moved hpoint =>
      cases hnext
      rw [hpoint] at hok; exact ⟨removeQuarantine_does hpoint hok reply, by simp [hpoint]⟩
    · cases hnext
  | restore reply =>
    simp only [next] at hnext
    split at hnext
    · next seen moved threw hpoint =>
      cases hnext
      rw [hpoint] at hok; exact ⟨restoreLink_does hok reply, by simp [hpoint]⟩
    · cases hnext
  | drop reply =>
    simp only [next] at hnext
    split at hnext
    · next seen moved threw hpoint =>
      cases hnext
      rw [hpoint] at hok; exact ⟨dropQuarantine_does hpoint hok reply, by simp [hpoint]⟩
    · cases hnext

end Does

lemma names_quarantine_ne {w : World} {call other : CallId} (h : other ≠ call) (e : Effect) :
    e.names call w.gens w.names (.quarantine other) = w.names (.quarantine other) := by
  cases e <;> simp [Effect.names, h]

lemma prefix_gens (e : Effect) (gens : List Generation) : gens <+: e.gens gens := by
  cases e with
  | write g => exact prefix_append gens [g]
  | _ => exact prefix_rfl

lemma Does.not_idle {site : Site} {w : World} {call : CallId} {result : Effect × Point}
    (h : Does site w call result) : result.2 ≠ .idle := by
  cases h with
  | still hplain _ => exact hplain.1
  | move _ _ hplain _ => exact hplain.1
  | relink _ _ hidle _ => exact hidle
  | write | publish | cleanup | delete | drop => simp

section After

variable {site : Site} {w : World} {call : CallId} {result : Effect × Point}

section

variable (h : Inv site w)
include h

section

variable (hdoes : Does site w call result)
include hdoes

lemma Inv.after_named (path : Path) (g : ℕ) (hg : (w.after call result).names path = some g) :
    g < (w.after call result).gens.length := by
  cases hdoes with
  | still => exact h.named path g hg
  | @write gen owner hidle howner htoken =>
    have hlength : ((w.after call (.write gen, .candidate)).gens).length = w.gens.length + 1 :=
      length_append
    simp only [World.after, Effect.names, update_apply] at hg
    rw [hlength]
    split at hg
    · cases hg; omega
    · exact Nat.lt_succ_of_lt (h.named path g hg)
  | publish hfree hcandidate hquarantine =>
    simp only [World.after, Effect.names, update_apply] at hg
    split at hg
    · exact some.inj hg ▸ h.named _ _ hcandidate
    · exact h.named path g hg
  | cleanup | delete | drop =>
    simp only [World.after, Effect.names, update_apply] at hg
    split at hg
    · cases hg
    · exact h.named path g hg
  | move htarget hquarantine hplain hok =>
    simp only [World.after, Effect.names, update_apply] at hg
    split at hg
    · exact some.inj hg ▸ h.named _ _ htarget
    · split at hg
      · cases hg
      · exact h.named path g hg
  | relink hfree hquarantine hidle hok =>
    simp only [World.after, Effect.names, update_apply] at hg
    split at hg
    · exact some.inj hg ▸ h.named _ _ hquarantine
    · exact h.named path g hg

/-- The call that steps has its file where its new place says. -/
lemma Does.point :
    PointOk (w.after call result).gens ((w.after call result).names (.quarantine call))
      result.2 := by
  cases hdoes with
  | still hplain hok => exact hok
  | write hidle howner htoken =>
    have hnone := h.points call
    rw [hidle] at hnone
    simpa [World.after, Effect.names, PointOk, update_apply] using hnone
  | publish hfree hcandidate hquarantine =>
    simpa [World.after, Effect.names, PointOk, update_apply] using hquarantine
  | cleanup hquarantine =>
    simpa [World.after, Effect.names, PointOk, update_apply] using hquarantine
  | move htarget hquarantine hplain hok =>
    simpa [World.after, Effect.names, Effect.gens] using hok
  | @relink g p hfree hquarantine hidle hok =>
    have hsame : (w.after call (.link g, p)).names (.quarantine call) = some g := by
      simpa [World.after, Effect.names, update_apply] using hquarantine
    rw [hsame]; exact hok
  | delete | drop => simp [World.after, Effect.names, PointOk]

lemma Inv.after_points (other : CallId) :
    PointOk (w.after call result).gens ((w.after call result).names (.quarantine other))
      ((w.after call result).calls other) := by
  by_cases hother : other = call
  · subst hother; simpa [World.after] using hdoes.point h
  · have hok := (h.points other).mono (prefix_gens result.1 w.gens)
    simpa [World.after, names_quarantine_ne hother, update_apply, hother] using hok

lemma Inv.after_distinct : Distinct (w.after call result).gens := by
  cases hdoes with
  | write hidle howner htoken =>
    refine h.distinct.append howner fun g' hg' other hother => ?_
    rw [htoken]; exact h.fresh call hidle g' hg' other hother
  | _ => exact h.distinct

lemma Inv.after_fresh (other : CallId) (hidle : (w.after call result).calls other = .idle)
    (g : Generation) (hg : g ∈ (w.after call result).gens) (owner : Owner)
    (howner : owner ∈ g.text.owner) : owner.token ≠ site.token other := by
  by_cases hother : other = call
  · subst hother; exact absurd (by simpa [World.after] using hidle) hdoes.not_idle
  have hidle' : w.calls other = .idle := by
    simpa [World.after, update_apply, hother] using hidle
  cases hdoes with
  | @write gen owner' hcall howner' htoken =>
    rcases mem_append.mp hg with hold | hnew
    · exact h.fresh other hidle' g hold owner howner
    obtain rfl : g = gen := mem_singleton.mp hnew
    obtain rfl : owner' = owner := some.inj (howner'.symm.trans howner)
    rw [htoken]; exact fun heq => hother (site.token_injective heq).symm
  | _ => exact h.fresh other hidle' g hg owner howner

lemma Inv.after :
    Inv site (w.after call result) where
  named := h.after_named hdoes
  points := h.after_points hdoes
  distinct := h.after_distinct hdoes
  fresh := h.after_fresh hdoes

end

end

end After

/-! ## No generation is lost -/

/-- A generation is at the lock path, or in a quarantine that is not only its second name. -/
def Present (w : World) (g : ℕ) : Prop :=
  w.names .target = some g ∨
    ∃ call, w.names (.quarantine call) = some g ∧ (w.calls call).isDropping = false

/-- The generation was deleted by a call that had judged it. -/
def Removed (w : World) (g : ℕ) : Prop :=
  ∃ call result, w.calls call = .ended (.removed g g) result

section Present

variable {site : Site} {w : World} {call : CallId} {result : Effect × Point} {g : ℕ}

lemma Does.present_target (hdoes : Does site w call result) (h : w.names .target = some g) :
    Present (w.after call result) g := by
  cases hdoes with
  | still | write | cleanup | delete | drop =>
    exact .inl (by simpa [World.after, Effect.names, update_apply] using h)
  | publish hfree | relink hfree => rw [hfree] at h; cases h
  | move htarget hquarantine hplain hok =>
    cases htarget.symm.trans h
    refine .inr ⟨call, ?_, ?_⟩
    · simp [World.after, Effect.names]
    · simpa [World.after] using hplain.2

/-- Only the call itself takes a generation out of its quarantine, to the lock path or for
good. -/
lemma Does.present_quarantine (hinv : Inv site w) (hdoes : Does site w call result)
    (h : w.names (.quarantine call) = some g) (hplain : (w.calls call).isDropping = false) :
    Present (w.after call result) g ∨
      w.calls call = .removing g g ∧ ∃ r, result.2 = .ended (.removed g g) r := by
  have hne : w.names (.quarantine call) ≠ none := by simp [h]
  cases hdoes with
  | still hstays hok => exact .inl (.inr ⟨call, h, by simpa [World.after] using hstays.2⟩)
  | write hidle howner htoken =>
    have hnone := hinv.points call
    rw [hidle] at hnone; exact absurd hnone hne
  | publish hfree hcandidate hquarantine => exact absurd hquarantine hne
  | cleanup hquarantine => exact absurd hquarantine hne
  | move htarget hquarantine hplain hok => exact absurd hquarantine hne
  | relink hfree hquarantine hidle hok =>
    cases hquarantine.symm.trans h; exact .inl (.inl (by simp [World.after, Effect.names]))
  | delete hpoint hquarantine => cases hquarantine.symm.trans h; exact .inr ⟨hpoint, _, rfl⟩
  | drop hdropping hquarantine => rw [hplain] at hdropping; cases hdropping

lemma Does.present (hinv : Inv site w) (hdoes : Does site w call result) (h : Present w g) :
    Present (w.after call result) g ∨
      w.calls call = .removing g g ∧ ∃ r, result.2 = .ended (.removed g g) r := by
  rcases h with htarget | ⟨other, hquarantine, hplain⟩
  · exact .inl (hdoes.present_target htarget)
  by_cases hother : other = call
  · subst hother; exact hdoes.present_quarantine hinv hquarantine hplain
  · refine .inl (.inr ⟨other, ?_, ?_⟩)
    · exact (names_quarantine_ne hother result.1).trans hquarantine
    · simpa [World.after, update_apply, hother] using hplain

end Present

section Runs

variable {site : Site} {w w' : World} {call : CallId} {act : Act}

section

variable (hinv : Inv site w)
include hinv

section

variable (hstep : step site w (call, act) = some w')
include hstep

lemma step_does :
    ∃ result, Does site w call result ∧ w' = w.after call result ∧
      ∀ fate r, w.calls call ≠ .ended fate r := by
  obtain ⟨result, hnext, rfl⟩ := map_eq_some_iff.mp hstep
  obtain ⟨hdoes, hgoing⟩ := next_does hinv hnext
  exact ⟨result, hdoes, rfl, hgoing⟩

lemma step_inv : Inv site w' := by
  obtain ⟨result, hdoes, rfl, -⟩ := step_does hinv hstep; exact hinv.after hdoes

lemma step_ended {other : CallId} {fate : Fate} {r : Result} (h : w.calls other = .ended fate r) :
    w'.calls other = .ended fate r := by
  obtain ⟨result, -, rfl, hgoing⟩ := step_does hinv hstep
  have hother : other ≠ call := by
    rintro rfl; exact hgoing fate r h
  simpa [World.after, update_apply, hother] using h

lemma step_present {g : ℕ} (h : Present w g) :
    Present w' g ∨
      w.calls call = .removing g g ∧ ∃ r, w'.calls call = .ended (.removed g g) r := by
  obtain ⟨result, hdoes, rfl, -⟩ := step_does hinv hstep
  rcases hdoes.present hinv h with hpresent | ⟨hpoint, r, hr⟩
  · exact .inl hpresent
  · exact .inr ⟨hpoint, r, by simp [World.after, hr]⟩

end

lemma run_inv {actions : List (CallId × Act)} (hrun : run (step site) w actions = some w') :
    Inv site w' := by
  induction actions generalizing w with
  | nil => exact some.inj hrun ▸ hinv
  | cons action actions ih =>
    obtain ⟨next, hstep, hrest⟩ := run_cons hrun
    exact ih (step_inv hinv hstep) hrest

lemma run_held {actions : List (CallId × Act)} (hrun : run (step site) w actions = some w')
    {g : ℕ} (h : Present w g ∨ Removed w g) : Present w' g ∨ Removed w' g := by
  induction actions generalizing w with
  | nil => exact some.inj hrun ▸ h
  | cons action actions ih =>
    obtain ⟨next, hstep, hrest⟩ := run_cons hrun
    refine ih (step_inv hinv hstep) hrest ?_
    rcases h with hpresent | ⟨call, r, hended⟩
    · rcases step_present hinv hstep hpresent with hstill | ⟨-, r, hended⟩
      · exact .inl hstill
      · exact .inr ⟨_, r, hended⟩
    · exact .inr ⟨call, r, step_ended hinv hstep hended⟩

/-- A call that puts its file back has it at the lock path then, or keeps it in quarantine. -/
lemma step_restoring {seen moved : ℕ} {threw : Bool}
    (hpoint : w.calls call = .restoring seen moved threw)
    (hstep : step site w (call, act) = some w') :
    w.names .target = none ∧ w'.names .target = some moved ∨
      w'.names (.quarantine call) = some moved ∧
        ∃ r, w'.calls call = .ended (.kept seen moved) r := by
  have hquarantine : w.names (.quarantine call) = some moved := by
    have hok := hinv.points call
    rw [hpoint] at hok; exact hok
  obtain ⟨result, hnext, rfl⟩ := map_eq_some_iff.mp hstep
  obtain ⟨reply, rfl⟩ : ∃ reply, result = restoreLink w call seen moved threw reply := by
    cases act with
    | restore reply => exact ⟨reply, by simpa [next, hpoint] using hnext.symm⟩
    | _ => simp [next, hpoint] at hnext
  rcases restoreLink_eq seen threw hquarantine reply with ⟨hfree, heq | ⟨r, heq⟩⟩ | ⟨r, heq⟩
  · exact .inl ⟨hfree, by simp [World.after, heq, Effect.names]⟩
  · exact .inl ⟨hfree, by simp [World.after, heq, Effect.names]⟩
  · exact .inr ⟨by simpa [World.after, heq, Effect.names] using hquarantine, r,
      by simp [World.after, heq]⟩

end

/-- However the calls interleave, fail and stop: a call that deleted a file had judged that
very generation, and so had the call that is about to when a generation goes; a file that is
put back comes to the lock path or stays in quarantine; what a call keeps is in its
quarantine; and a generation that was once present is so ever after, or was deleted so. -/
theorem reclaim_neverLoses {site : Site} {w : World} {before : List (CallId × Act)}
    (hrun : run (step site) (World.init site) before = some w) :
    (∀ call seen moved r, w.calls call = .ended (.removed seen moved) r → moved = seen) ∧
    (∀ g call act w', Present w g → step site w (call, act) = some w' →
      Present w' g ∨
        w.calls call = .removing g g ∧ ∃ r, w'.calls call = .ended (.removed g g) r) ∧
    (∀ call seen moved threw act w', w.calls call = .restoring seen moved threw →
      step site w (call, act) = some w' →
      w.names .target = none ∧ w'.names .target = some moved ∨
        w'.names (.quarantine call) = some moved ∧
          ∃ r, w'.calls call = .ended (.kept seen moved) r) ∧
    (∀ call seen moved r, w.calls call = .ended (.kept seen moved) r →
      w.names (.quarantine call) = some moved) ∧
    ∀ g after w', Present w g → run (step site) w after = some w' →
      Present w' g ∨ Removed w' g := by
  have hinv : Inv site w := run_inv (Inv.init site) hrun
  refine ⟨fun call seen moved r hended => ?_, fun g call act w' hpresent hstep => ?_,
    fun call seen moved threw act w' hpoint hstep => ?_, fun call seen moved r hended => ?_,
    fun g after w' hpresent hafter => ?_⟩
  · have hok := hinv.points call
    rw [hended] at hok; exact hok.2
  · exact step_present hinv hstep hpresent
  · exact step_restoring hinv hpoint hstep
  · have hok := hinv.points call
    rw [hended] at hok; exact hok
  · exact run_held hinv hafter (.inl hpresent)

end Runs

def tokenOf (call : CallId) : String := String.ofList (List.replicate (call + 1) 'a')

lemma tokenOf_injective : Function.Injective tokenOf := by
  intro i j h
  have hlength := congrArg List.length (String.ofList_injective h)
  simpa using hlength

/-- A lock file that is not an owner record is there. -/
def crashed : Site where
  token := tokenOf
  token_injective := tokenOf_injective
  initial := some ⟨⟨none, .regular, 0⟩, 8, 41⟩
  fresh := by
    intro g hg owner howner
    cases hg
    cases howner

def ownerOf (call : CallId) : Owner :=
  ⟨lockSchemaVersion, "alpha", 4242, none, none, none, none, tokenOf call, ""⟩

/-- One of two calls that judge the file removes it; the other moves away what a third publishes,
and a fourth takes the path. -/
def rivals : List (CallId × Act) :=
  [(0, .observe), (1, .observe), (1, .rename .done), (1, .inspect .done true), (1, .remove .done),
    (2, .create (ownerOf 2) 5 8 41), (2, .link .done), (0, .rename .done),
    (3, .create (ownerOf 3) 6 8 42), (3, .link .done), (0, .inspect .done true),
    (0, .restore (.failed false .exists))]

/-- The file that was moved by mistake stays in quarantine. -/
theorem reclaim_neverLoses_rivals :
    ∃ w, run (step crashed) (World.init crashed) rivals = some w ∧
      w.calls 1 = .ended (.removed 0 0) (.returned true) ∧ w.names .target = some 2 ∧
      w.calls 0 = .ended (.kept 0 1) (.returned false) ∧ w.names (.quarantine 0) = some 1 ∧
      ∀ after w', run (step crashed) w after = some w' → Present w' 1 ∨ Removed w' 1 := by
  have hends : (run (step crashed) (World.init crashed) rivals).map
      (fun w => (w.calls 1, w.names .target, w.calls 0)) =
      some (.ended (.removed 0 0) (.returned true), some 2,
        .ended (.kept 0 1) (.returned false)) := by
    decide +kernel
  obtain ⟨w, hrun, hw⟩ := map_eq_some_iff.mp hends
  simp only [Prod.mk.injEq] at hw; obtain ⟨hfirst, htarget, hkept⟩ := hw
  obtain ⟨-, -, -, hquarantine, hheld⟩ := reclaim_neverLoses hrun
  have hmoved := hquarantine 0 0 1 _ hkept
  exact ⟨w, hrun, hfirst, htarget, hkept, hmoved,
    fun after w' => hheld 1 after w' (.inr ⟨0, hmoved, by rw [hkept]; rfl⟩)⟩

end NemoClaw.LockReclaim
