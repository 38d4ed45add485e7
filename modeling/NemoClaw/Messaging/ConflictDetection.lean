import NemoClaw.Js.Object

/- Whether two sandboxes use one credential of a messaging channel.

Onboarding asks it of what a plan is about to use, which leaves out the credentials that are
not available; the status asks it of all that the plans of two sandboxes hold. For a channel
whose credentials are declared the two compare the same keys.

What is proved:
  1. `lookup_collect`: what a map holds that is filled one item after the other.
  2. `reasonOverKeys_matching`, `reasonOverKeys_none`: the reason of a conflict does not
     depend on the order of the keys.
  3. `mem_findConflictsInEntries`, `mem_detectAllOverlapsInEntries`: what the two checks
     report of two sandboxes.
  4. `conflictChecks_agree`: where they agree.

Correspondence (messaging/applier/conflict-detection ↔ Lean): functions keep their names.
The keys that the manifests declare are the parameter `envKeys`
(`CHANNEL_CREDENTIAL_ENV_KEYS`); `reasonOverKeys` is the loop of `conflictReasonForRequest`
and of `conflictReasonForPair`. A request has hashes as a plan makes them.
-/
namespace NemoClaw.ConflictDetection

open Js List

/-- A channel of a plan, on or off. -/
structure SandboxMessagingChannelPlan where
  channelId : String
  active : Bool
  disabled : Bool

/-- The credential that a channel uses, by the hash of its token. -/
structure CredentialBinding where
  channelId : String
  providerEnvKey : String
  credentialHash : Option String
  credentialAvailable : Bool

/-- What the detection reads of a plan. -/
structure SandboxMessagingPlan where
  channels : List SandboxMessagingChannelPlan
  disabledChannels : List String
  credentialBindings : List CredentialBinding

/-- A sandbox of the registry with its plan, if it has one. -/
structure ConflictRegistryEntry where
  name : String
  plan : Option SandboxMessagingPlan

/-- Two sandboxes share a token, or it is not known whether they do. -/
inductive ConflictReason where
  | matchingToken
  | unknownToken
  deriving DecidableEq

/-- A channel that is asked for, with the hashes of its tokens. -/
structure ConflictRequest where
  channel : String
  credentialHashes : List (String × String)

/-- A sandbox that a request conflicts with. -/
structure ConflictMatch where
  channel : String
  sandbox : String
  reason : ConflictReason
  deriving DecidableEq

/-- Two sandboxes that conflict on a channel. -/
structure Overlap where
  channel : String
  sandboxes : String × String
  reason : ConflictReason
  deriving DecidableEq

section Collect

variable {α β : Type}

/-- The items under their keys, keys in the order in which they first occur. -/
def collect (key : α → String) (add : Option β → α → β) (items : List α) : List (String × β) :=
  items.foldl (fun map item => setOwn map (key item) (add (map.lookup (key item)) item)) []

/-- A key holds what its items give, in their order. -/
theorem lookup_collect (key : α → String) (add : Option β → α → β) (items : List α) (k : String) :
    (collect key add items).lookup k =
      (items.filter (key · = k)).foldl (fun held item => some (add held item)) none := by
  induction items using List.reverseRecOn with
  | nil => rfl
  | append_singleton items item ih =>
    have hstep : collect key add (items ++ [item]) = setOwn (collect key add items) (key item)
        (add ((collect key add items).lookup (key item)) item) := by
      unfold collect
      rw [foldl_append]; rfl
    rw [hstep, lookup_setOwn, filter_append, foldl_append, ← ih]
    by_cases hk : k = key item
    · subst hk; simp
    · simp [hk, Ne.symm hk]

lemma nodup_collect (key : α → String) (add : Option β → α → β) (items : List α) :
    ((collect key add items).map (·.1)).Nodup := by
  induction items using List.reverseRecOn with
  | nil => exact nodup_nil
  | append_singleton items item ih =>
    unfold collect at ih ⊢
    rw [foldl_append]; exact nodup_setOwn ih _ _

lemma mem_collect {key : α → String} {add : Option β → α → β} {items : List α} {k : String}
    {value : β} : (k, value) ∈ collect key add items ↔
      (items.filter (key · = k)).foldl (fun held item => some (add held item)) none =
        some value := by
  rw [← lookup_collect]; exact ⟨lookup_of_mem (nodup_collect key add items), mem_of_lookup⟩

end Collect

/-- The channels that are on and disabled nowhere in the plan. -/
def getActiveChannelIdsFromPlan (plan : SandboxMessagingPlan) : List String :=
  (plan.channels.filter fun c =>
    c.active && !c.disabled && c.channelId ∉ plan.disabledChannels).map (·.channelId)

/-- `hashes[b.providerEnvKey] = b.credentialHash`, if there is a hash. -/
def addHash (hashes : List (String × String)) (binding : CredentialBinding) :
    List (String × String) :=
  match binding.credentialHash.filter (· ≠ "") with
  | some hash => assignKey hashes binding.providerEnvKey hash
  | none => hashes

/-- The hashes of a channel's tokens, by the names of their variables. -/
def getCredentialHashesFromPlan (plan : SandboxMessagingPlan) (channelId : String) :
    List (String × String) :=
  (plan.credentialBindings.filter (·.channelId = channelId)).foldl addHash []

/-- What a plan asks for: its active channels with an available credential. -/
def planToConflictChannelRequests (plan : SandboxMessagingPlan) : List ConflictRequest :=
  let bindings := plan.credentialBindings.filter fun binding =>
    binding.channelId ∈ getActiveChannelIdsFromPlan plan && binding.credentialAvailable
  (collect (·.channelId) (fun hashes binding => addHash (hashes.getD []) binding) bindings).map
    fun requested => ⟨requested.1, requested.2⟩

/-! ## Entries -/

/-- The active channels of a registered sandbox. -/
def resolveActiveChannelsFromEntry (entry : ConflictRegistryEntry) : Option (List String) :=
  entry.plan.map getActiveChannelIdsFromPlan

/-- The hashes that a registered sandbox has stored for a channel. -/
def resolveChannelHashesFromEntry (entry : ConflictRegistryEntry) (channelId : String) :
    List (String × String) :=
  (entry.plan.map (getCredentialHashesFromPlan · channelId)).getD []

/-- A registered sandbox uses the channel. -/
def hasStoredChannelInEntry (entry : ConflictRegistryEntry) (channel : String) : Bool :=
  (resolveActiveChannelsFromEntry entry).any (channel ∈ ·)

/-- What reading a property gives: a hash, or a function that every object inherits. -/
inductive StoredHash where
  | text (hash : String)
  | inherited (name : String)
  deriving DecidableEq

/-- `hashes[key]`, if it is true as a condition. -/
def readHash (hashes : List (String × String)) (key : String) : Option StoredHash :=
  (getInherited (hashes.map fun kv => (kv.1, StoredHash.text kv.2)) key (.inherited key)).filter
    (· ≠ .text "")

/-- The first key with equal hashes decides; a hash that is missing leaves it open. -/
def reasonOverKeys (left right : List (String × String)) : Bool → List String → Option ConflictReason
  | sawUnknown, [] => if sawUnknown then some .unknownToken else none
  | sawUnknown, key :: keys =>
    match readHash left key, readHash right key with
    | some l, some r =>
      if l = r then some .matchingToken else reasonOverKeys left right sawUnknown keys
    | _, _ => reasonOverKeys left right true keys

variable (envKeys : String → Option (List String))

/-- The variables that a channel's manifest declares. -/
def declaredKeys (channel : String) : Option (List String) := (envKeys channel).filter (· ≠ [])

/-- Why a registered sandbox conflicts with a request, if it does. -/
def conflictReasonForRequest (entry : ConflictRegistryEntry) (request : ConflictRequest) :
    Option ConflictReason :=
  if hasStoredChannelInEntry entry request.channel then
    let storedHashes := resolveChannelHashesFromEntry entry request.channel
    let keys := (declaredKeys envKeys request.channel).getD
      (if ownKeys storedHashes ≠ [] then ownKeys storedHashes else ownKeys request.credentialHashes)
    reasonOverKeys request.credentialHashes storedHashes false keys
  else none

/-- Why two registered sandboxes conflict on a channel, if they do. -/
def conflictReasonForPair (channel : String) (left right : ConflictRegistryEntry) :
    Option ConflictReason :=
  if hasStoredChannelInEntry left channel && hasStoredChannelInEntry right channel then
    let lh := resolveChannelHashesFromEntry left channel
    let rh := resolveChannelHashesFromEntry right channel
    let keys := (declaredKeys envKeys channel).getD (ownKeys lh ++ ownKeys rh).eraseDups
    reasonOverKeys lh rh false keys
  else none

/-- The conflicts of the requests with every other sandbox that has a plan. -/
def findConflictsInEntries (currentSandbox : Option String) (requests : List ConflictRequest)
    (entries : List ConflictRegistryEntry) : List ConflictMatch :=
  let others := entries.filter fun e => some e.name ≠ currentSandbox && e.plan.isSome
  requests.flatMap fun request => others.flatMap fun entry =>
    match conflictReasonForRequest envKeys entry request with
    | some reason => [⟨request.channel, entry.name, reason⟩]
    | none => []

/-- The pairs of an earlier and a later item. -/
def pairs {α : Type} : List α → List (α × α)
  | [] => []
  | x :: rest => rest.map (x, ·) ++ pairs rest

/-- Every pair of sandboxes that conflict on a channel. -/
def detectAllOverlapsInEntries (entries : List ConflictRegistryEntry) : List Overlap :=
  let active := entries.flatMap fun entry =>
    ((resolveActiveChannelsFromEntry entry).getD []).map fun channel => (channel, entry)
  let byChannel := collect (·.1) (fun list found => list.getD [] ++ [found.2]) active
  byChannel.flatMap fun channelEntries =>
    if channelEntries.2.length < 2 then []
    else (pairs channelEntries.2).filterMap fun pair =>
      (conflictReasonForPair envKeys channelEntries.1 pair.1 pair.2).map fun reason =>
        ⟨channelEntries.1, (pair.1.name, pair.2.name), reason⟩

section Reasons

variable {left right : List (String × String)} {sawUnknown : Bool} {keys keys' : List String}

/-- A token is shared exactly if some key has equal hashes. -/
theorem reasonOverKeys_matching : reasonOverKeys left right sawUnknown keys = some .matchingToken ↔
    ∃ key ∈ keys, ∃ hash, readHash left key = some hash ∧ readHash right key = some hash := by
  induction keys generalizing sawUnknown with
  | nil =>
    rw [reasonOverKeys]
    split <;> simp
  | cons key keys ih =>
    rw [reasonOverKeys, exists_mem_cons_iff]
    split
    · next l r hl hr =>
      by_cases hsame : l = r
      · simp [hl, hr, hsame]
      · simp [hl, hr, hsame, Ne.symm hsame, ih]
    · next hunknown =>
      have hnone : ¬∃ hash, readHash left key = some hash ∧ readHash right key = some hash :=
        fun ⟨hash, hl, hr⟩ => hunknown hash hash hl hr
      rw [ih, or_iff_right hnone]

/-- There is no conflict exactly if all keys have hashes that differ. -/
theorem reasonOverKeys_none : reasonOverKeys left right sawUnknown keys = none ↔
    sawUnknown = false ∧ ∀ key ∈ keys, ∃ l r,
      readHash left key = some l ∧ readHash right key = some r ∧ l ≠ r := by
  induction keys generalizing sawUnknown with
  | nil =>
    rw [reasonOverKeys]
    split <;> simp_all
  | cons key keys ih =>
    rw [reasonOverKeys, forall_mem_cons]
    split
    · next l r hl hr =>
      by_cases hsame : l = r
      · simp [hl, hr, hsame]
      · simp [hl, hr, hsame, ih]
    · next hunknown =>
      have hnone : ¬∃ l r, readHash left key = some l ∧ readHash right key = some r ∧ l ≠ r :=
        fun ⟨l, r, hl, hr, _⟩ => hunknown l r hl hr
      simp only [ih, hnone, Bool.true_eq_false, false_and, and_false]

lemma reason_ext {reason reason' : Option ConflictReason}
    (hmatching : reason = some .matchingToken ↔ reason' = some .matchingToken)
    (hnone : reason = none ↔ reason' = none) : reason = reason' := by
  cases reason with
  | none => exact (hnone.mp rfl).symm
  | some r =>
    cases reason' with
    | none => exact hnone.mpr rfl
    | some r' => cases r <;> cases r' <;> simp_all

/-- The sides may be exchanged, and the keys be in another order. -/
lemma reasonOverKeys_symm (h : ∀ key, key ∈ keys ↔ key ∈ keys') :
    reasonOverKeys left right sawUnknown keys = reasonOverKeys right left sawUnknown keys' := by
  refine reason_ext ?_ ?_
  · rw [reasonOverKeys_matching, reasonOverKeys_matching]; simp only [h, and_comm]
  rw [reasonOverKeys_none, reasonOverKeys_none]
  refine and_congr_right fun _ => forall_congr' fun key => ?_
  rw [h]
  exact imp_congr_right fun _ => ⟨fun ⟨l, r, hl, hr, hne⟩ => ⟨r, l, hr, hl, hne.symm⟩,
    fun ⟨l, r, hl, hr, hne⟩ => ⟨r, l, hr, hl, hne.symm⟩⟩

/-- Which of the sandboxes comes first does not matter. -/
lemma conflictReasonForPair_symm (channel : String) (left right : ConflictRegistryEntry) :
    conflictReasonForPair envKeys channel left right =
      conflictReasonForPair envKeys channel right left := by
  unfold conflictReasonForPair
  rw [Bool.and_comm]
  split
  · refine reasonOverKeys_symm fun key => ?_
    cases declaredKeys envKeys channel with
    | some keys => rfl
    | none => simp [mem_eraseDups, or_comm]
  · rfl

end Reasons

/-! ## Two sandboxes -/

section Two

variable {envKeys} {a b : SandboxMessagingPlan} {na nb channel : String} {reason : ConflictReason}

/-- The plan with its available credentials only. -/
def SandboxMessagingPlan.available (plan : SandboxMessagingPlan) : SandboxMessagingPlan :=
  { plan with credentialBindings := plan.credentialBindings.filter (·.credentialAvailable) }

/-- The plan has an available credential for the channel. -/
def Requested (plan : SandboxMessagingPlan) (channel : String) : Prop :=
  ∃ binding ∈ plan.credentialBindings, binding.channelId = channel ∧
    binding.credentialAvailable

lemma hasStoredChannelInEntry_iff :
    hasStoredChannelInEntry ⟨na, some a⟩ channel ↔
      channel ∈ getActiveChannelIdsFromPlan a := by
  simp [hasStoredChannelInEntry, resolveActiveChannelsFromEntry]

lemma foldl_addHash (bindings : List CredentialBinding) (hashes : List (String × String)) :
    bindings.foldl (fun held binding => some (addHash (held.getD []) binding)) (some hashes) =
      some (bindings.foldl addHash hashes) := by
  induction bindings generalizing hashes with
  | nil => rfl
  | cons binding bindings ih => exact ih _

/-- A plan asks for its active channels with a credential that is available. -/
lemma mem_planToConflictChannelRequests {request : ConflictRequest} :
    request ∈ planToConflictChannelRequests a ↔
      request.channel ∈ getActiveChannelIdsFromPlan a ∧ Requested a request.channel ∧
        request.credentialHashes = getCredentialHashesFromPlan a.available request.channel := by
  obtain ⟨channel, hashes⟩ := request
  have hmem : (⟨channel, hashes⟩ : ConflictRequest) ∈ planToConflictChannelRequests a ↔
      (channel, hashes) ∈ collect (·.channelId)
        (fun hashes binding => addHash (hashes.getD []) binding)
        (a.credentialBindings.filter fun binding =>
          binding.channelId ∈ getActiveChannelIdsFromPlan a && binding.credentialAvailable) := by
    simp [planToConflictChannelRequests]
  rw [hmem, mem_collect, filter_filter]
  by_cases hactive : channel ∈ getActiveChannelIdsFromPlan a
  · have hbindings : (a.credentialBindings.filter fun binding =>
          decide (binding.channelId = channel) &&
            (decide (binding.channelId ∈ getActiveChannelIdsFromPlan a) &&
              binding.credentialAvailable)) =
        a.available.credentialBindings.filter (·.channelId = channel) := by
      unfold SandboxMessagingPlan.available
      rw [filter_filter]
      refine filter_congr fun binding _ => ?_
      by_cases hchannel : binding.channelId = channel
      · simp [hchannel, hactive]
      · simp [hchannel]
    rw [hbindings]
    cases hlist : a.available.credentialBindings.filter (·.channelId = channel) with
    | nil =>
      have hnone : ¬Requested a channel := by
        rintro ⟨binding, hbinding, hchannel, havailable⟩
        have hfound : binding ∈ a.available.credentialBindings.filter (·.channelId = channel) :=
          mem_filter.mpr ⟨mem_filter.mpr ⟨hbinding, havailable⟩, by simpa using hchannel⟩
        rw [hlist] at hfound; cases hfound
      simp [hnone]
    | cons binding rest =>
      have hfound : binding ∈ a.available.credentialBindings.filter (·.channelId = channel) :=
        hlist ▸ mem_cons_self
      obtain ⟨havailable, hchannel⟩ := mem_filter.mp hfound
      obtain ⟨hbinding, havailable⟩ := mem_filter.mp havailable
      have hrequested : Requested a channel :=
        ⟨binding, hbinding, by simpa using hchannel, havailable⟩
      rw [foldl_cons, foldl_addHash, Option.some_inj]
      simp only [hactive, hrequested, true_and, getCredentialHashesFromPlan, hlist,
        foldl_cons, Option.getD_none]
      exact eq_comm
  · have hbindings : (a.credentialBindings.filter fun binding =>
          decide (binding.channelId = channel) &&
            (decide (binding.channelId ∈ getActiveChannelIdsFromPlan a) &&
              binding.credentialAvailable)) = [] := by
      refine filter_eq_nil_iff.mpr fun binding _ h => ?_
      simp only [Bool.and_eq_true, decide_eq_true_eq] at h; exact hactive (h.1 ▸ h.2.1)
    rw [hbindings]; simp [hactive]

/-- The conflicts of a plan with one other sandbox. -/
theorem mem_findConflictsInEntries (hne : na ≠ nb) :
    ⟨channel, nb, reason⟩ ∈ findConflictsInEntries envKeys (some na)
        (planToConflictChannelRequests a) [⟨nb, some b⟩] ↔
      channel ∈ getActiveChannelIdsFromPlan a ∧ Requested a channel ∧
        conflictReasonForRequest envKeys ⟨nb, some b⟩
          ⟨channel, getCredentialHashesFromPlan a.available channel⟩ = some reason := by
  have hothers : [(⟨nb, some b⟩ : ConflictRegistryEntry)].filter
      (fun e => some e.name ≠ some na && e.plan.isSome) = [⟨nb, some b⟩] := by
    simp [hne.symm]
  unfold findConflictsInEntries
  rw [hothers, mem_flatMap]
  constructor
  · rintro ⟨request, hrequest, hmem⟩
    obtain ⟨hactive, hrequested, hhashes⟩ := mem_planToConflictChannelRequests.mp hrequest
    rw [flatMap_singleton] at hmem
    split at hmem
    · next hreason =>
      obtain ⟨rfl, -, rfl⟩ := ConflictMatch.mk.inj (mem_singleton.mp hmem)
      rw [← hhashes]; exact ⟨hactive, hrequested, hreason⟩
    · cases hmem
  · rintro ⟨hactive, hrequested, hreason⟩
    refine ⟨⟨channel, getCredentialHashesFromPlan a.available channel⟩,
      mem_planToConflictChannelRequests.mpr ⟨hactive, hrequested, rfl⟩, ?_⟩
    rw [flatMap_singleton, hreason]; exact mem_singleton_self _

lemma mem_of_mem_pairs {α : Type} {x y : α} {items : List α} (h : (x, y) ∈ pairs items) :
    x ∈ items ∧ y ∈ items := by
  induction items with
  | nil => cases h
  | cons item items ih =>
    cases mem_append.mp h with
    | inl hfirst =>
      obtain ⟨y', hy, heq⟩ := mem_map.mp hfirst
      obtain ⟨rfl, rfl⟩ := Prod.mk.inj heq
      exact ⟨mem_cons_self, mem_cons_of_mem _ hy⟩
    | inr hrest => exact (ih hrest).imp (mem_cons_of_mem _) (mem_cons_of_mem _)

lemma mem_pairs_append {α : Type} {x y : α} {xs ys : List α} (hx : x ∈ xs) (hy : y ∈ ys) :
    (x, y) ∈ pairs (xs ++ ys) := by
  induction xs with
  | nil => cases hx
  | cons first xs ih =>
    cases mem_cons.mp hx with
    | inl heq =>
      subst heq
      exact mem_append_left _ (mem_map_of_mem (mem_append_right _ hy))
    | inr hrest => exact mem_append_right _ (ih hrest)

lemma foldl_push (found : List (String × ConflictRegistryEntry))
    (held : List ConflictRegistryEntry) :
    found.foldl (fun list entry => some (list.getD [] ++ [entry.2])) (some held) =
      some (held ++ found.map (·.2)) := by
  induction found generalizing held with
  | nil => simp
  | cons first found ih => rw [foldl_cons, Option.getD_some, ih]; simp

lemma mem_collect_push {found : List (String × ConflictRegistryEntry)}
    {entries : List ConflictRegistryEntry} :
    (channel, entries) ∈ collect (·.1) (fun list entry => list.getD [] ++ [entry.2]) found ↔
      entries ≠ [] ∧ entries = (found.filter (·.1 = channel)).map (·.2) := by
  rw [mem_collect]
  cases found.filter (·.1 = channel) with
  | nil => simp
  | cons first rest =>
  rw [foldl_cons, foldl_push, Option.some_inj]
  constructor
  · rintro rfl; exact ⟨cons_ne_nil _ _, rfl⟩
  · exact fun h => h.2.symm

lemma mem_found {ids : List String} {entry entry' : ConflictRegistryEntry} :
    entry' ∈ ((ids.map (·, entry)).filter (·.1 = channel)).map (·.2) ↔
      channel ∈ ids ∧ entry' = entry := by
  simp only [mem_map, mem_filter, decide_eq_true_eq]
  constructor
  · rintro ⟨_, ⟨⟨id, hid, rfl⟩, rfl⟩, rfl⟩; exact ⟨hid, rfl⟩
  · rintro ⟨hid, rfl⟩; exact ⟨(channel, entry'), ⟨⟨channel, hid, rfl⟩, rfl⟩, rfl⟩

/-- The status reports what the pair gives. -/
theorem mem_detectAllOverlapsInEntries (hne : na ≠ nb) :
    ⟨channel, (na, nb), reason⟩ ∈
        detectAllOverlapsInEntries envKeys [⟨na, some a⟩, ⟨nb, some b⟩] ↔
      conflictReasonForPair envKeys channel ⟨na, some a⟩ ⟨nb, some b⟩ = some reason := by
  have hactive : ([⟨na, some a⟩, ⟨nb, some b⟩] : List ConflictRegistryEntry).flatMap
      (fun entry => ((resolveActiveChannelsFromEntry entry).getD []).map
        fun channel => (channel, entry)) =
      (getActiveChannelIdsFromPlan a).map (·, ⟨na, some a⟩) ++
        (getActiveChannelIdsFromPlan b).map (·, ⟨nb, some b⟩) := by
    simp [resolveActiveChannelsFromEntry]
  unfold detectAllOverlapsInEntries
  rw [hactive, mem_flatMap]
  constructor
  · rintro ⟨⟨channel', entries⟩, hentries, hmem⟩
    obtain ⟨-, hfound⟩ := mem_collect_push.mp hentries
    rw [filter_append, map_append] at hfound
    split at hmem
    · cases hmem
    obtain ⟨⟨left, right⟩, hpair, hreason⟩ := mem_filterMap.mp hmem
    obtain ⟨reason', hreason', heq⟩ := Option.map_eq_some_iff.mp hreason
    obtain ⟨rfl, hnames, rfl⟩ := Overlap.mk.inj heq
    obtain ⟨rfl, rfl⟩ := Prod.mk.inj hnames
    have hknown : ∀ entry ∈ entries, entry = ⟨left.name, some a⟩ ∨ entry = ⟨right.name, some b⟩ := by
      intro entry hentry
      rw [hfound, mem_append, mem_found, mem_found] at hentry
      exact hentry.imp And.right And.right
    obtain ⟨hl, hr⟩ := mem_of_mem_pairs hpair
    have hl' : left = ⟨left.name, some a⟩ := (hknown left hl).resolve_right fun h =>
      hne (by rw [h])
    have hr' : right = ⟨right.name, some b⟩ := (hknown right hr).resolve_left fun h =>
      hne (by rw [h])
    rw [← hl', ← hr']; exact hreason'
  · intro hreason
    have hstored : hasStoredChannelInEntry ⟨na, some a⟩ channel ∧
        hasStoredChannelInEntry ⟨nb, some b⟩ channel := by
      by_contra hnot
      unfold conflictReasonForPair at hreason
      rw [if_neg fun h => hnot (Bool.and_eq_true_iff.mp h)] at hreason; cases hreason
    rw [hasStoredChannelInEntry_iff, hasStoredChannelInEntry_iff] at hstored
    have ha := mem_found.mpr ⟨hstored.1, (rfl : (⟨na, some a⟩ : ConflictRegistryEntry) = _)⟩
    have hb := mem_found.mpr ⟨hstored.2, (rfl : (⟨nb, some b⟩ : ConflictRegistryEntry) = _)⟩
    refine ⟨(channel, _), mem_collect_push.mpr ⟨?_, rfl⟩, ?_⟩
    · rw [filter_append, map_append]
      exact ne_nil_of_mem (mem_append_left _ ha)
    rw [filter_append, map_append, length_append]
    have hpos := length_pos_of_mem ha
    have hpos' := length_pos_of_mem hb
    rw [if_neg (by omega)]
    refine mem_filterMap.mpr ⟨_, mem_pairs_append ha hb, ?_⟩
    dsimp only
    rw [hreason]; rfl

/-- On a declared channel a request conflicts as its sandbox would. -/
lemma conflictReasonForRequest_eq_pair {keys : List String}
    (hdeclared : declaredKeys envKeys channel = some keys)
    (hactive : channel ∈ getActiveChannelIdsFromPlan a) :
    conflictReasonForRequest envKeys ⟨nb, some b⟩
        ⟨channel, getCredentialHashesFromPlan a channel⟩ =
      conflictReasonForPair envKeys channel ⟨na, some a⟩ ⟨nb, some b⟩ := by
  have hstored : hasStoredChannelInEntry ⟨na, some a⟩ channel :=
    hasStoredChannelInEntry_iff.mpr hactive
  unfold conflictReasonForRequest conflictReasonForPair
  rw [hstored, Bool.true_and, hdeclared]; rfl

/-- Credentials of other channels do not matter. -/
lemma conflictReasonForPair_available
    (h : ∀ binding ∈ a.credentialBindings, binding.channelId = channel →
      binding.credentialAvailable) :
    conflictReasonForPair envKeys channel ⟨na, some a.available⟩ ⟨nb, some b⟩ =
      conflictReasonForPair envKeys channel ⟨na, some a⟩ ⟨nb, some b⟩ := by
  have hhashes : resolveChannelHashesFromEntry ⟨na, some a.available⟩ channel =
      resolveChannelHashesFromEntry ⟨na, some a⟩ channel := by
    show getCredentialHashesFromPlan a.available channel = getCredentialHashesFromPlan a channel
    unfold getCredentialHashesFromPlan SandboxMessagingPlan.available
    rw [filter_filter]
    refine congrArg (List.foldl addHash []) (filter_congr fun binding hbinding => ?_)
    by_cases hchannel : binding.channelId = channel
    · simp [hchannel, h binding hbinding hchannel]
    · simp [hchannel]
  have hstored : hasStoredChannelInEntry ⟨na, some a.available⟩ channel =
      hasStoredChannelInEntry ⟨na, some a⟩ channel := rfl
  unfold conflictReasonForPair
  rw [hhashes, hstored]

end Two

/-- For a channel whose credentials are declared, onboarding reports what the status reports of
the plan with its available credentials, if there is any; where all of them are available that
is what the status reports of the plan. The status reports the same with the sandboxes
exchanged. -/
theorem conflictChecks_agree (envKeys : String → Option (List String))
    (a b : SandboxMessagingPlan) (na nb : String) (hne : na ≠ nb) (channel : String)
    (reason : ConflictReason) :
    (declaredKeys envKeys channel ≠ none →
      (⟨channel, nb, reason⟩ ∈ findConflictsInEntries envKeys (some na)
          (planToConflictChannelRequests a) [⟨nb, some b⟩] ↔
        Requested a channel ∧ ⟨channel, (na, nb), reason⟩ ∈
          detectAllOverlapsInEntries envKeys [⟨na, some a.available⟩, ⟨nb, some b⟩]) ∧
      (Requested a channel → (∀ binding ∈ a.credentialBindings, binding.channelId = channel →
          binding.credentialAvailable) →
        (⟨channel, nb, reason⟩ ∈ findConflictsInEntries envKeys (some na)
            (planToConflictChannelRequests a) [⟨nb, some b⟩] ↔
          ⟨channel, (na, nb), reason⟩ ∈
            detectAllOverlapsInEntries envKeys [⟨na, some a⟩, ⟨nb, some b⟩]))) ∧
    (⟨channel, (na, nb), reason⟩ ∈
        detectAllOverlapsInEntries envKeys [⟨na, some a⟩, ⟨nb, some b⟩] ↔
      ⟨channel, (nb, na), reason⟩ ∈
        detectAllOverlapsInEntries envKeys [⟨nb, some b⟩, ⟨na, some a⟩]) := by
  constructor
  · intro hdeclared
    obtain ⟨keys, hkeys⟩ := Option.ne_none_iff_exists'.mp hdeclared
    have hfirst : ⟨channel, nb, reason⟩ ∈ findConflictsInEntries envKeys (some na)
          (planToConflictChannelRequests a) [⟨nb, some b⟩] ↔
        Requested a channel ∧ ⟨channel, (na, nb), reason⟩ ∈
          detectAllOverlapsInEntries envKeys [⟨na, some a.available⟩, ⟨nb, some b⟩] := by
      rw [mem_findConflictsInEntries hne, mem_detectAllOverlapsInEntries hne]
      by_cases hactive : channel ∈ getActiveChannelIdsFromPlan a
      · have hsame := @conflictReasonForRequest_eq_pair envKeys a.available b na nb channel _
          hkeys hactive
        rw [hsame, and_iff_right hactive]
      · have hnone : conflictReasonForPair envKeys channel ⟨na, some a.available⟩ ⟨nb, some b⟩ =
            none := by
          unfold conflictReasonForPair
          rw [if_neg]
          rw [Bool.and_eq_true, hasStoredChannelInEntry_iff]; exact fun h => hactive h.1
        simp [hactive, hnone]
    refine ⟨hfirst, fun hrequested havailable => ?_⟩
    rw [hfirst, and_iff_right hrequested, mem_detectAllOverlapsInEntries hne,
      mem_detectAllOverlapsInEntries hne, conflictReasonForPair_available havailable]
  · rw [mem_detectAllOverlapsInEntries hne, mem_detectAllOverlapsInEntries hne.symm,
      conflictReasonForPair_symm]

/-- A plan for Telegram with one token. -/
def telegramPlan (credentialAvailable : Bool) : SandboxMessagingPlan where
  channels := [⟨"telegram", true, false⟩]
  disabledChannels := []
  credentialBindings := [⟨"telegram", "TELEGRAM_BOT_TOKEN", some "5e884898", credentialAvailable⟩]

/-- Telegram declares its bot token, and no other channel declares any. -/
def telegramKeys (channel : String) : Option (List String) :=
  if channel = "telegram" then some ["TELEGRAM_BOT_TOKEN"] else none

/-- Two sandboxes with one available token. -/
theorem conflictChecks_agree_telegram :
    "alpha" ≠ "beta" ∧ (⟨"telegram", "beta", .matchingToken⟩ ∈ findConflictsInEntries telegramKeys
        (some "alpha") (planToConflictChannelRequests (telegramPlan true))
        [⟨"beta", some (telegramPlan true)⟩] ↔
      ⟨"telegram", ("alpha", "beta"), .matchingToken⟩ ∈ detectAllOverlapsInEntries telegramKeys
        [⟨"alpha", some (telegramPlan true)⟩, ⟨"beta", some (telegramPlan true)⟩]) :=
  ⟨by decide, ((conflictChecks_agree telegramKeys (telegramPlan true) (telegramPlan true) "alpha"
    "beta" (by decide) "telegram" .matchingToken).1 (by decide)).2
    ⟨_, mem_singleton_self _, rfl, rfl⟩
    fun binding hbinding _ => by rw [mem_singleton.mp hbinding]⟩

/-- Onboarding leaves out a token that is not available, and the status does not. -/
theorem conflictChecks_differ : ¬∀ (a b : SandboxMessagingPlan) (channel : String)
    (reason : ConflictReason),
    ⟨channel, "beta", reason⟩ ∈ findConflictsInEntries telegramKeys (some "alpha")
        (planToConflictChannelRequests a) [⟨"beta", some b⟩] ↔
      ⟨channel, ("alpha", "beta"), reason⟩ ∈
        detectAllOverlapsInEntries telegramKeys [⟨"alpha", some a⟩, ⟨"beta", some b⟩] := by
  intro h
  have hiff := h (telegramPlan false) (telegramPlan true) "telegram" .matchingToken
  revert hiff; decide

end NemoClaw.ConflictDetection
