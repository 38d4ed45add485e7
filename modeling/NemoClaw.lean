import NemoClaw.Onboard.ProviderReplay
import NemoClaw.Onboard.ProviderLedger
import NemoClaw.Onboard.RecreateSourceProof
import NemoClaw.Policy.HostSpelling
import NemoClaw.Registry.AbsentName
import NemoClaw.Registry.Lock
import NemoClaw.Onboard.ExecutionExclusive
import NemoClaw.Onboard.ManagedBootstrapCrash
import NemoClaw.Blueprint.ApplyRecorded
import NemoClaw.State.SymlinkEscape
import NemoClaw.Onboard.EngineExclusive
import NemoClaw.Inference.ManagedStateAgree
import NemoClaw.Inference.InferenceSetInStep
import NemoClaw.Mcp.LifecycleContainment
import NemoClaw.Shields.TrackedWindow
import NemoClaw.Shields.RestoreBudget
import NemoClaw.Inference.HttpsPinRecovery
import NemoClaw.Inference.HttpsPinLock
import NemoClaw.Inference.ManagedClusterOwned
import NemoClaw.Inference.TopologySubject
import NemoClaw.Onboard.SessionCodec
import NemoClaw.Core.BoundedLineTranscript
import NemoClaw.Mcp.LockReclaim
import NemoClaw.Security.EnvFile
import NemoClaw.Security.TrustedPrivateEndpoint
import NemoClaw.Policy.NpmCompatibility
import NemoClaw.Inference.GuardChatBody
import NemoClaw.State.PrimaryAgent
import NemoClaw.Shields.PermissiveRuntime
import NemoClaw.Policy.BaselineExclusion
import NemoClaw.Security.MemoryWrites
import NemoClaw.State.RestoreArchive
import NemoClaw.Onboard.BootstrapEnvelope
import NemoClaw.Inference.KimiMessages
import NemoClaw.Inference.RouteDiscovery
import NemoClaw.Messaging.PlanMerge
import NemoClaw.Messaging.ConflictDetection
import NemoClaw.Inference.HttpsPinForward
import NemoClaw.Onboard.RecreateFingerprint
import NemoClaw.State.SnapshotSelectors
import NemoClaw.State.SnapshotHash
import NemoClaw.Shields.StaleRecovery
import NemoClaw.Onboard.MachineRunner
