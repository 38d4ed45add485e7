import NemoClaw.Js.Json
import NemoClaw.Js.Order

/- What adding a channel makes of the messaging plan of a sandbox.

Every collection of the plan is merged by the channels that occur in it, not by the
channels that are added: what a channel had in a collection stays where the added plan
has nothing for it there.

What is proved:
  1. `entriesOf_mergePlanEntriesByChannel`: the entries of a channel in a merged collection.
  2. `mem_disabledChannels_merge`: which channels are disabled after a merge.
  3. `mergeSandboxMessagingPlans_replaces_iff`: when a merge replaces its channels.

Correspondence (messaging/compiler/workflow-planner.ts ↔ Lean): functions keep their names.
An entry is its channel and its other properties, which are carried along. `clonePlan`
leaves out what is undefined, so it changes nothing here.
-/
namespace NemoClaw.MessagingPlan

open Js List

/-- A channel of a plan; what the merge does not look at is in `fields`. -/
structure SandboxMessagingChannelPlan where
  channelId : String
  active : Bool
  disabled : Bool
  fields : List (String × Json)

/-- An entry of one of the collections of a plan, under the channel it is for. -/
structure PlanEntry where
  channelId : String
  fields : List (String × Json)

/-- The preset that a network policy entry asks for. -/
def PlanEntry.presetName (entry : PlanEntry) : String :=
  (readString (entry.fields.lookup "presetName")).getD ""

/-- The network presets of a plan, and the entries they come from. -/
structure SandboxMessagingNetworkPolicyPlan where
  presets : List String
  entries : List PlanEntry

/-- What a plan sets up in the running sandbox. -/
structure SandboxMessagingRuntimeSetupPlan where
  nodePreloads : List PlanEntry
  envAliases : List PlanEntry
  secretScans : List PlanEntry

/-- What a sandbox is to do for messaging, channel by channel. -/
structure SandboxMessagingPlan where
  schemaVersion : ℕ
  sandboxName : String
  agent : String
  workflow : String
  channels : List SandboxMessagingChannelPlan
  disabledChannels : List String
  credentialBindings : List PlanEntry
  networkPolicy : SandboxMessagingNetworkPolicyPlan
  agentRender : List PlanEntry
  buildSteps : List PlanEntry
  runtimeSetup : Option SandboxMessagingRuntimeSetupPlan
  stateUpdates : List PlanEntry
  healthChecks : List PlanEntry

/-- The strings once each and in order, without empty ones. -/
def uniqueSortedStrings (values : List String) : List String :=
  sortStrings (values.dedup.filter (· ≠ ""))

/-- The incoming entries replace those of their channels. -/
def mergePlanEntriesByChannel (existing incoming : List PlanEntry) : List PlanEntry :=
  let incomingChannelIds := incoming.map (·.channelId)
  existing.filter (·.channelId ∉ incomingChannelIds) ++ incoming

/-- A collection of a runtime setup, empty when there is no setup. -/
def setupEntries (setup : Option SandboxMessagingRuntimeSetupPlan)
    (collection : SandboxMessagingRuntimeSetupPlan → List PlanEntry) : List PlanEntry :=
  (setup.map collection).getD []

/-- The three collections of the setup, each merged by channel. -/
def mergeRuntimeSetup (existing incoming : Option SandboxMessagingRuntimeSetupPlan) :
    SandboxMessagingRuntimeSetupPlan where
  nodePreloads := mergePlanEntriesByChannel (setupEntries existing (·.nodePreloads))
    (setupEntries incoming (·.nodePreloads))
  envAliases := mergePlanEntriesByChannel (setupEntries existing (·.envAliases))
    (setupEntries incoming (·.envAliases))
  secretScans := mergePlanEntriesByChannel (setupEntries existing (·.secretScans))
    (setupEntries incoming (·.secretScans))

/-- The channels that are on and not disabled. -/
def activeChannels (plan : SandboxMessagingPlan) : List String :=
  (plan.channels.filter fun channel => channel.active && !channel.disabled).map (·.channelId)

/-- Both plans are of one version, for one sandbox and one agent. -/
def SameTarget (existing incoming : SandboxMessagingPlan) : Prop :=
  existing.schemaVersion = incoming.schemaVersion ∧ existing.sandboxName = incoming.sandboxName ∧
    existing.agent = incoming.agent

instance (existing incoming : SandboxMessagingPlan) : Decidable (SameTarget existing incoming) :=
  inferInstanceAs (Decidable (_ ∧ _ ∧ _))

/-- The incoming plan with what the existing one has for other channels; the incoming plan as
it is when their targets differ. -/
def mergeSandboxMessagingPlans (existing incoming : SandboxMessagingPlan) : SandboxMessagingPlan :=
  if SameTarget existing incoming then
    let incomingChannelIds := incoming.channels.map (·.channelId)
    let networkEntries :=
      mergePlanEntriesByChannel existing.networkPolicy.entries incoming.networkPolicy.entries
    { incoming with
      channels := existing.channels.filter (·.channelId ∉ incomingChannelIds) ++ incoming.channels
      disabledChannels := uniqueSortedStrings
        (existing.disabledChannels.filter (· ∉ activeChannels incoming) ++
          incoming.disabledChannels)
      credentialBindings :=
        mergePlanEntriesByChannel existing.credentialBindings incoming.credentialBindings
      networkPolicy := ⟨uniqueSortedStrings (networkEntries.map (·.presetName)), networkEntries⟩
      agentRender := mergePlanEntriesByChannel existing.agentRender incoming.agentRender
      buildSteps := mergePlanEntriesByChannel existing.buildSteps incoming.buildSteps
      runtimeSetup := some (mergeRuntimeSetup existing.runtimeSetup incoming.runtimeSetup)
      stateUpdates := mergePlanEntriesByChannel existing.stateUpdates incoming.stateUpdates
      healthChecks := mergePlanEntriesByChannel existing.healthChecks incoming.healthChecks }
  else incoming

/-- The collections of a plan that hold entries of channels. -/
inductive Collection where
  | credentialBindings
  | networkPolicy
  | agentRender
  | buildSteps
  | nodePreloads
  | envAliases
  | secretScans
  | stateUpdates
  | healthChecks

/-- The entries of a collection, wherever the plan keeps them. -/
def SandboxMessagingPlan.collection (plan : SandboxMessagingPlan) : Collection → List PlanEntry
  | .credentialBindings => plan.credentialBindings
  | .networkPolicy => plan.networkPolicy.entries
  | .agentRender => plan.agentRender
  | .buildSteps => plan.buildSteps
  | .nodePreloads => setupEntries plan.runtimeSetup (·.nodePreloads)
  | .envAliases => setupEntries plan.runtimeSetup (·.envAliases)
  | .secretScans => setupEntries plan.runtimeSetup (·.secretScans)
  | .stateUpdates => plan.stateUpdates
  | .healthChecks => plan.healthChecks

/-- The entries of a channel. -/
def entriesOf (channel : String) (entries : List PlanEntry) : List PlanEntry :=
  entries.filter (·.channelId = channel)

/-- The plan has the channel among its channels. -/
def SandboxMessagingPlan.lists (plan : SandboxMessagingPlan) (channel : String) : Prop :=
  channel ∈ plan.channels.map (·.channelId)

/-- Each added channel is as it is in `incoming`, each other one as it was. -/
structure Replaces (existing incoming merged : SandboxMessagingPlan) : Prop where
  added : ∀ collection channel, incoming.lists channel →
    entriesOf channel (merged.collection collection) =
      entriesOf channel (incoming.collection collection)
  others : ∀ collection channel, ¬incoming.lists channel →
    entriesOf channel (merged.collection collection) =
      entriesOf channel (existing.collection collection)
  disabled : ∀ channel, incoming.lists channel →
    (channel ∈ merged.disabledChannels ↔ channel ∈ incoming.disabledChannels)

/-- The incoming plan says of every channel what the merge then has: nothing of the existing
plan shows through. -/
structure Covers (existing incoming : SandboxMessagingPlan) : Prop where
  added : ∀ collection channel, incoming.lists channel →
    entriesOf channel (incoming.collection collection) = [] →
      entriesOf channel (existing.collection collection) = []
  others : ∀ collection channel, ¬incoming.lists channel →
    entriesOf channel (incoming.collection collection) = [] ∨
      entriesOf channel (incoming.collection collection) =
        entriesOf channel (existing.collection collection)
  disabled : ∀ channel, incoming.lists channel →
    (channel ∈ incoming.disabledChannels → channel ≠ "") ∧
      (channel ∈ existing.disabledChannels → channel ∉ activeChannels incoming → channel ≠ "" →
        channel ∈ incoming.disabledChannels)

variable {existing incoming : SandboxMessagingPlan}

lemma entriesOf_eq_nil {channel : String} {entries : List PlanEntry} :
    entriesOf channel entries = [] ↔ channel ∉ entries.map (·.channelId) := by
  unfold entriesOf
  rw [filter_eq_nil_iff]; simp

/-- A channel has the incoming entries, or else the existing ones. -/
theorem entriesOf_mergePlanEntriesByChannel (channel : String) (existing incoming : List PlanEntry) :
    entriesOf channel (mergePlanEntriesByChannel existing incoming) =
      if entriesOf channel incoming = [] then entriesOf channel existing
      else entriesOf channel incoming := by
  have hkept : entriesOf channel (existing.filter (·.channelId ∉ incoming.map (·.channelId))) =
      if entriesOf channel incoming = [] then entriesOf channel existing else [] := by
    unfold entriesOf
    rw [filter_filter]
    split
    · next hnil =>
      refine filter_congr fun entry _ => ?_
      have hnone := entriesOf_eq_nil.mp hnil
      by_cases hchannel : entry.channelId = channel
      · simp [hchannel, hnone]
      · simp [hchannel]
    · next hsome =>
      refine filter_eq_nil_iff.mpr fun entry _ h => ?_
      rw [Bool.and_eq_true, decide_eq_true_eq, decide_eq_true_eq] at h
      exact hsome (entriesOf_eq_nil.mpr (h.1 ▸ h.2))
  have hsplit : entriesOf channel (mergePlanEntriesByChannel existing incoming) =
      entriesOf channel (existing.filter (·.channelId ∉ incoming.map (·.channelId))) ++
        entriesOf channel incoming := filter_append ..
  rw [hsplit, hkept]
  split
  · next hnil => rw [hnil, append_nil]
  · rfl

/-- Every collection of the merge is merged by channel. -/
lemma collection_merge (h : SameTarget existing incoming) (collection : Collection) :
    (mergeSandboxMessagingPlans existing incoming).collection collection =
      mergePlanEntriesByChannel (existing.collection collection)
        (incoming.collection collection) := by
  unfold mergeSandboxMessagingPlans
  rw [if_pos h]
  cases collection <;> rfl

lemma mem_uniqueSortedStrings {values : List String} {value : String} :
    value ∈ uniqueSortedStrings values ↔ value ∈ values ∧ value ≠ "" := by
  simp [uniqueSortedStrings, sortStrings, mem_insertionSort]

/-- A channel stays disabled unless the incoming plan has it active. -/
theorem mem_disabledChannels_merge (h : SameTarget existing incoming) {channel : String} :
    channel ∈ (mergeSandboxMessagingPlans existing incoming).disabledChannels ↔
      (channel ∈ existing.disabledChannels ∧ channel ∉ activeChannels incoming ∨
        channel ∈ incoming.disabledChannels) ∧ channel ≠ "" := by
  unfold mergeSandboxMessagingPlans
  rw [if_pos h]; simp [mem_uniqueSortedStrings]

/-- A merge replaces its channels exactly if it covers what they had. -/
theorem mergeSandboxMessagingPlans_replaces_iff (h : SameTarget existing incoming) :
    Replaces existing incoming (mergeSandboxMessagingPlans existing incoming) ↔
      Covers existing incoming := by
  have hentries : ∀ collection channel,
      entriesOf channel ((mergeSandboxMessagingPlans existing incoming).collection collection) =
        if entriesOf channel (incoming.collection collection) = [] then
          entriesOf channel (existing.collection collection)
        else entriesOf channel (incoming.collection collection) := by
    intro collection channel
    rw [collection_merge h, entriesOf_mergePlanEntriesByChannel]
  constructor
  · intro hreplaces
    refine ⟨fun collection channel hlists hnil => ?_, fun collection channel hlists => ?_,
      fun channel hlists => ⟨fun hincoming => ?_, fun hbefore hinactive hne => ?_⟩⟩
    · have hadded := hreplaces.added collection channel hlists
      rwa [hentries, if_pos hnil, hnil] at hadded
    · have hothers := hreplaces.others collection channel hlists
      rw [hentries] at hothers
      split at hothers
      · next hnil => exact .inl hnil
      · exact .inr hothers
    · have hmerged := (hreplaces.disabled channel hlists).mpr hincoming
      exact ((mem_disabledChannels_merge h).mp hmerged).2
    · refine (hreplaces.disabled channel hlists).mp ((mem_disabledChannels_merge h).mpr ?_)
      exact ⟨.inl ⟨hbefore, hinactive⟩, hne⟩
  · intro hcovers
    refine ⟨fun collection channel hlists => ?_, fun collection channel hlists => ?_,
      fun channel hlists => ?_⟩
    · rw [hentries]
      split
      · next hnil => rw [hnil, hcovers.added collection channel hlists hnil]
      · rfl
    · rw [hentries]
      split
      · rfl
      · next hsome => exact (hcovers.others collection channel hlists).resolve_left hsome
    · obtain ⟨hnamed, hkept⟩ := hcovers.disabled channel hlists
      rw [mem_disabledChannels_merge h]
      constructor
      · rintro ⟨⟨hbefore, hinactive⟩ | hincoming, hne⟩
        · exact hkept hbefore hinactive hne
        · exact hincoming
      · exact fun hincoming => ⟨.inr hincoming, hnamed hincoming⟩

/-- A plan for Telegram alone, with some health checks. -/
def telegramPlan (healthChecks : List PlanEntry) : SandboxMessagingPlan where
  schemaVersion := 1
  sandboxName := "alpha"
  agent := "openclaw"
  workflow := "add-channel"
  channels := [⟨"telegram", true, false, []⟩]
  disabledChannels := []
  credentialBindings := []
  networkPolicy := ⟨[], []⟩
  agentRender := []
  buildSteps := []
  runtimeSetup := none
  stateUpdates := []
  healthChecks := healthChecks

/-- Two disabled channels with an entry each, one of them to be added anew. -/
def pausedPlan : SandboxMessagingPlan :=
  { telegramPlan [⟨"telegram", [("id", .str "old")]⟩] with
    channels := [⟨"slack", true, true, []⟩, ⟨"telegram", true, true, []⟩]
    disabledChannels := ["slack", "telegram"]
    credentialBindings := [⟨"slack", [("source", .str "SLACK_BOT_TOKEN")]⟩] }

/-- The added channel is active, with a check and a credential of its own. -/
def resumedPlan : SandboxMessagingPlan :=
  { telegramPlan [⟨"telegram", [("id", .str "new")]⟩] with
    credentialBindings := [⟨"telegram", [("source", .str "TELEGRAM_BOT_TOKEN")]⟩] }

lemma lists_resumedPlan {channel : String} (h : resumedPlan.lists channel) :
    channel = "telegram" := mem_singleton.mp h

/-- The new check takes the place of the old one, and only the other channel stays disabled. -/
theorem resumedPlan_replaces :
    Replaces pausedPlan resumedPlan (mergeSandboxMessagingPlans pausedPlan resumedPlan) ∧
      (mergeSandboxMessagingPlans pausedPlan resumedPlan).disabledChannels = ["slack"] := by
  have hcovers : Covers pausedPlan resumedPlan := by
    refine ⟨fun collection channel hlists hnil => ?_, fun collection channel hlists => ?_,
      fun channel hlists => ⟨(nomatch ·), fun _ hinactive _ => ?_⟩⟩
    · obtain rfl := lists_resumedPlan hlists
      cases collection <;> first | rfl | cases hnil
    · have hother : "telegram" ≠ channel := fun h => hlists (mem_singleton.mpr h.symm)
      left
      cases collection <;> first | rfl | simp [entriesOf, resumedPlan, telegramPlan,
        SandboxMessagingPlan.collection, hother]
    · obtain rfl := lists_resumedPlan hlists
      exact absurd (by decide) hinactive
  have htarget : SameTarget pausedPlan resumedPlan := ⟨rfl, rfl, rfl⟩
  exact ⟨(mergeSandboxMessagingPlans_replaces_iff htarget).mpr hcovers, by decide⟩

/-- A health check of a channel stays after the channel is added again without one. -/
theorem healthCheck_stays : ¬∀ existing incoming, SameTarget existing incoming →
    Replaces existing incoming (mergeSandboxMessagingPlans existing incoming) := by
  intro h
  have hadded := (h (telegramPlan [⟨"telegram", []⟩]) (telegramPlan []) ⟨rfl, rfl, rfl⟩).added
    .healthChecks "telegram" (mem_singleton_self _)
  cases hadded

end NemoClaw.MessagingPlan
